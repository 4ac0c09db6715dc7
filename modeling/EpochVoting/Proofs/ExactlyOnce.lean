import EpochVoting.Proofs.Claims
import EpochVoting.Proofs.Growth

/-!
# Settled once

A claim that finds power marks the voter's part of the pot as claimed, and a clawback marks
the bribe's epoch.  A part that is marked is refused, and a mark is never lost, whatever is
called in between and however often the engine is saved and loaded.  So over a whole history
every part is claimed at most once, and every epoch of a bribe is clawed back at most once
(`settled_once`).
-/

namespace EpochVoting

namespace Engine

variable {e e' : Engine} {voter : Address} {pot : Pot} {id : UInt64} {epoch : Epoch}

/-- A claim on the pot finds power: for fees the gauge has power in the epoch; a claim on a
reward is refused without it. -/
def FindsPower (e : Engine) : Pot → Prop
  | .fees gauge epoch _ => e.totalPower gauge epoch ≠ 0
  | .reward _ _ => True

/-- What was claimed stays claimed. -/
theorem Grows.hasClaimed (h : e.Grows e') (hclaimed : e.hasClaimed voter pot = true) :
    e'.hasClaimed voter pot = true := by
  cases pot with
  | fees gauge epoch side =>
    rw [hasClaimed_fees] at hclaimed
    cases hs : e.commitments.snapshot? voter epoch with
    | none =>
      rw [hs] at hclaimed
      cases hclaimed
    | some s =>
      rw [hs] at hclaimed
      obtain ⟨s', hs', hgrows⟩ := h.snapshots (voter, epoch) s hs
      rw [hasClaimed_fees, show e'.commitments.snapshot? voter epoch = some s' from hs']
      exact hgrows.flags gauge side hclaimed
  | reward id epoch =>
    obtain ⟨k, hk⟩ := Table.contains_iff.mp hclaimed
    obtain ⟨k', hk', rfl⟩ := h.claims (voter, id, epoch) k hk
    exact Table.contains_iff.mpr ⟨k, hk'⟩

/-- What was clawed back stays clawed back. -/
theorem Grows.isClawedBack (h : e.Grows e') (hback : e.bribes.isClawedBack id epoch = true) :
    e'.bribes.isClawedBack id epoch = true := by
  obtain ⟨k, hk⟩ := Table.contains_iff.mp hback
  obtain ⟨k', hk', rfl⟩ := h.clawbacks (id, epoch) k hk
  exact Table.contains_iff.mpr ⟨k, hk'⟩

end Engine

namespace Deployment

open Engine EpochVoting.Action

variable {d d' : Deployment} {operation : Operation} {reply : Reply} {voter : Address}
  {pot : Pot} {id : UInt64} {epoch : Epoch}

/-! ## Marks -/

/-- A reward is paid to voters only if they have power. -/
theorem Step.reward_power {b : Bribe} (h : Step d operation reply d')
    (hclaim : operation.claim? = some (voter, .reward id epoch))
    (hb : d.engine.bribes.bribes.find? id = some b) :
    d.engine.commitments.power b.gauge epoch ≠ 0 := by
  cases h with
  | bribePaid _ _ _ hbribe hcheck =>
    cases hclaim
    cases hb.symm.trans hbribe
    obtain ⟨-, -, -, -, -, hpower, -⟩ := (BribeLedger.checkClaim_eq_ok_iff hbribe).mp hcheck
    rw [← totalPower_toNat]
    exact fun hzero => hpower (UInt64.toNat_inj.mp hzero)
  | _ => cases hclaim

/-- A claim that finds power and succeeds is the first, and it leaves its mark. -/
theorem Claims.marks (h : d.Claims pot voter operation) (hfinds : d.engine.FindsPower pot) :
    d.engine.hasClaimed voter pot = false ∧
      (d.after operation).engine.hasClaimed voter pot = true := by
  obtain ⟨hclaim, reply, d', hrun⟩ := h
  have hstep := step_of_perform (Operation.basic_of_claim hclaim).1 hrun
  have hafter : d.after operation = d' := by
    rw [after_eq_leaves, leaves_of_ok hrun]
  obtain ⟨gauge, epoch, value, paid, -, hoffers, -, hfirst⟩ := hstep.claim hclaim
  have hpower : d.engine.commitments.power gauge epoch ≠ 0 := by
    cases hoffers with
    | fees side =>
      rw [← totalPower_toNat]
      exact fun hzero => hfinds (UInt64.toNat_inj.mp hzero)
    | reward hb hgauge =>
      subst hgauge
      exact hstep.reward_power hclaim hb
  obtain ⟨hnew, hdone, -⟩ := hfirst hpower
  rw [hafter]
  exact ⟨hnew, hdone⟩

/-- A clawback that succeeds is the first, and it leaves its mark. -/
theorem ClawsBack.marks (h : d.ClawsBack id epoch operation) :
    d.engine.bribes.isClawedBack id epoch = false ∧
      (d.after operation).engine.bribes.isClawedBack id epoch = true := by
  obtain ⟨hback, reply, d', hrun⟩ := h
  have hafter : d.after operation = d' := by
    rw [after_eq_leaves, leaves_of_ok hrun]
  have hbasic : operation.isBasic = true := by
    cases operation with
    | clawBackBribe => rfl
    | _ => cases hback
  rw [hafter]
  cases step_of_perform hbasic hrun with
  | bribeReturned _ hbribe hcheck _ hrecorded =>
    cases hback
    obtain ⟨rfl, -, -, -, hnew, -⟩ := (BribeLedger.checkClawback_eq_ok_iff hbribe).mp hcheck
    obtain ⟨total, -, rfl⟩ := (BribeLedger.recordClawback_eq_ok_iff hbribe).mp hrecorded
    exact ⟨hnew, Table.contains_iff.mpr ⟨_, Table.find?_insert_self ..⟩⟩
  | _ => cases hback

/-! ## Histories -/

/-- The event at the position is a call of the kind `P`, on the deployment that the events
before it left. -/
def HappensAt (P : Deployment → Operation → Prop) (d : Deployment) (events : List Event)
    (i : Nat) : Prop :=
  ∃ operation, events[i]? = some (.call operation) ∧
    P (d.afterEvents (events.take i)) operation

theorem afterEvents_append_singleton (d : Deployment) (first : List Event) (event : Event) :
    d.afterEvents (first ++ [event]) = (d.afterEvents first).afterEvent event := by
  unfold afterEvents
  rw [List.foldl_append]
  rfl

variable {foreman : Address} {params : FactoryParams} {maxLockSecs : UInt64}

/-- What is refused once it is marked, and leaves a mark that stays, happens at most once. -/
theorem happens_once {P : Deployment → Operation → Prop} (marked : Engine → Bool)
    (hcreate : create foreman params maxLockSecs = .ok d)
    (hmarks : ∀ d operation, P d operation →
      marked d.engine = false ∧ marked (d.after operation).engine = true)
    (hstays : ∀ e e' : Engine, e.Grows e' → marked e = true → marked e' = true)
    (events : List Event) {i j : Nat} (hi : d.HappensAt P events i)
    (hj : d.HappensAt P events j) : i = j := by
  have hnot {i j : Nat} (hlt : i < j) (hi : d.HappensAt P events i)
      (hj : d.HappensAt P events j) : False := by
    obtain ⟨first, hfirst, hhere⟩ := hi
    obtain ⟨second, -, hlater⟩ := hj
    have hmarked := (hmarks _ _ hhere).2
    have hnext : d.afterEvents (events.take (i + 1)) =
        (d.afterEvents (events.take i)).after first := by
      rw [List.take_add_one, hfirst]
      exact afterEvents_append_singleton d _ (.call first)
    have hsplit : events.take (i + 1) ++ (events.drop (i + 1)).take (j - (i + 1)) =
        events.take j := by
      rw [← List.take_add]
      congr 1
      omega
    have hgrows := grows_afterEvents hcreate (events.take (i + 1))
      ((events.drop (i + 1)).take (j - (i + 1)))
    rw [hsplit, hnext] at hgrows
    have hstill := hstays _ _ hgrows hmarked
    rw [(hmarks _ _ hlater).1] at hstill
    cases hstill
  rcases Nat.lt_trichotomy i j with hlt | heq | hgt
  · exact (hnot hlt hi hj).elim
  · exact heq
  · exact (hnot hgt hj hi).elim

/-- A successful claim of the voter's part that finds power. -/
def Settles (pot : Pot) (voter : Address) (d : Deployment) (operation : Operation) : Prop :=
  d.Claims pot voter operation ∧ d.engine.FindsPower pot

/-- In every history from a new deployment, whoever calls what in whatever order, and
however often the engine is saved and loaded: of every pot, a side's fees of a gauge in an
epoch or a bribe's reward of an epoch, each voter claims a part at most once; every epoch
of a bribe is clawed back at most once; and flags, claims and clawbacks once written stay,
while the epoch, its end, the number of bribes, the sequence numbers and the totals of
gauges and bribes never fall. -/
theorem settled_once (hcreate : create foreman params maxLockSecs = .ok d)
    (events : List Event) :
    (∀ pot voter i j, d.HappensAt (Settles pot voter) events i →
      d.HappensAt (Settles pot voter) events j → i = j) ∧
    (∀ id epoch i j, d.HappensAt (ClawsBack id epoch) events i →
      d.HappensAt (ClawsBack id epoch) events j → i = j) ∧
    ∀ i j, i ≤ j → (d.afterEvents (events.take i)).engine.Grows
      (d.afterEvents (events.take j)).engine := by
  refine ⟨fun pot voter i j hi hj => ?_, fun id epoch i j hi hj => ?_, fun i j hle => ?_⟩
  · exact happens_once (fun e => e.hasClaimed voter pot) hcreate
      (fun _ _ h => h.1.marks h.2) (fun _ _ hgrows => hgrows.hasClaimed) events hi hj
  · exact happens_once (fun e => e.bribes.isClawedBack id epoch) hcreate
      (fun _ _ h => h.marks) (fun _ _ hgrows => hgrows.isClawedBack) events hi hj
  · have hsplit : events.take i ++ (events.drop i).take (j - i) = events.take j := by
      rw [← List.take_add, Nat.add_sub_cancel' hle]
    rw [← hsplit]
    exact grows_afterEvents hcreate _ _

end Deployment

namespace Sample

open Deployment

/-- An operation that is seen to succeed. -/
theorem succeeds_of_matches {d : Deployment} {operation : Operation}
    (h : ((perform operation).run d matches .ok _ _) = true) :
    ∃ reply d', (perform operation).run d = .ok reply d' := by
  cases hrun : (perform operation).run d with
  | ok reply d' => exact ⟨reply, d', rfl⟩
  | error error d' => simp [hrun] at h

/-- In the sample history the fees are claimed before a restart and claimed again after it,
in vain; the reward of the second epoch is clawed back.  All that is marked by then is
still marked at the end. -/
theorem history_settled_once :
    (deployment.HappensAt (Settles (.fees (account 1) 1 .a) (account 4)) history 8 ∧
      history[11]? = some (.call (.claimFee none (account 4) (account 1) 1 .a)) ∧
      ¬ deployment.HappensAt (Settles (.fees (account 1) 1 .a) (account 4)) history 11) ∧
    (deployment.HappensAt (ClawsBack 0 2) history 13 ∧
      ∀ i, deployment.HappensAt (ClawsBack 0 2) history i → i = 13) ∧
    (deployment.afterEvents (history.take 9)).engine.Grows
      (deployment.afterEvents (history.take 15)).engine := by
  have hstate : ((perform (.claimFee none (account 4) (account 1) 1 .a)).run
        (deployment.afterAll (calls (history.take 8))) matches .ok _ _) = true ∧
      (deployment.afterAll (calls (history.take 8))).engine.totalPower (account 1) 1 ≠ 0 ∧
      ((perform (.clawBackBribe (account 6) 0 2)).run
        (deployment.afterAll (calls (history.take 13))) matches .ok _ _) = true := by
    decide +kernel
  rw [← afterEvents_eq create_deployment, ← afterEvents_eq create_deployment] at hstate
  obtain ⟨hclaim, hpower, hback⟩ := hstate
  obtain ⟨honce, hback_once, hgrows⟩ := settled_once create_deployment history
  have hfees : deployment.HappensAt (Settles (.fees (account 1) 1 .a) (account 4)) history 8 :=
    ⟨_, rfl, ⟨rfl, succeeds_of_matches hclaim⟩, hpower⟩
  have hreturn : deployment.HappensAt (ClawsBack 0 2) history 13 :=
    ⟨_, rfl, rfl, succeeds_of_matches hback⟩
  refine ⟨⟨hfees, rfl, fun hagain => ?_⟩, ⟨hreturn, fun i hi => ?_⟩, hgrows 9 15 (by decide)⟩
  · have hsame : 11 = 8 := honce _ _ _ _ hagain hfees
    cases hsame
  · exact hback_once _ _ _ _ hi hreturn

end Sample
end EpochVoting
