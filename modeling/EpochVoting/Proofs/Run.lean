import EpochVoting.Proofs.BribeEpochs
import EpochVoting.Proofs.Perform
import Mathlib.Logic.Relation

/-!
# Runs

An operation that is several calls at once leaves what its calls leave one after the
other, up to the one that fails (`after_parts`).  So every run of operations is a run of
basic ones, and each of these changes the records once or not at all.  The invariants of
the records therefore hold after every run from a new deployment, whatever its arguments
and whatever happens around the engine (`sound_afterAll`).
-/

namespace EpochVoting

/-! ## What an action leaves behind -/

namespace Action

variable {α β : Type}

/-- The deployment that an action leaves behind, whether or not it fails. -/
def leaves (x : Action α) (d : Deployment) : Deployment :=
  match x.run d with
  | .ok _ d' => d'
  | .error _ d' => d'

theorem leaves_of_ok {x : Action α} {a : α} {d d' : Deployment} (h : x.run d = .ok a d') :
    x.leaves d = d' := by
  unfold leaves
  rw [h]

theorem leaves_of_error {x : Action α} {error : VotingError} {d d' : Deployment}
    (hx : Atomic x d) (h : x.run d = .error error d') : x.leaves d = d := by
  unfold leaves
  rw [h]
  exact hx h

theorem leaves_bind_ok {x : Action α} {f : α → Action β} {a : α} {d d' : Deployment}
    (h : x.run d = .ok a d') : (x >>= f).leaves d = (f a).leaves d' := by
  unfold leaves
  rw [EStateM.run_bind, h]

theorem leaves_bind_error {x : Action α} {f : α → Action β} {error : VotingError}
    {d d' : Deployment} (h : x.run d = .error error d') :
    (x >>= f).leaves d = x.leaves d := by
  unfold leaves
  rw [EStateM.run_bind, h]

theorem leaves_get_bind (f : Deployment → Action β) (d : Deployment) :
    (get >>= f : Action β).leaves d = (f d).leaves d :=
  rfl

theorem leaves_map (f : α → β) (x : Action α) (d : Deployment) :
    (f <$> x).leaves d = x.leaves d := by
  unfold leaves
  rw [map_eq_pure_bind, EStateM.run_bind]
  cases x.run d <;> rfl

theorem leaves_bind_pure (x : Action α) (b : β) (d : Deployment) :
    (x >>= fun _ => pure b : Action β).leaves d = x.leaves d := by
  unfold leaves
  rw [EStateM.run_bind]
  cases x.run d <;> rfl

theorem leaves_lift (x : Except VotingError α) (d : Deployment) :
    (liftM x : Action α).leaves d = d := by
  unfold leaves
  rw [run_lift]
  cases x <;> rfl

end Action

/-! ## What an operation brings in -/

namespace Operation

/-- The targets that an operation brings in. -/
def targets : Operation → List Address
  | .createGauge target _ | .addGauge target _ | .accruePool target _ _ _ => [target]
  | _ => []

/-- The accounts of others that an operation brings in: those that it moves tokens into
or out of, and those that payouts may go to from then on. -/
def outsiders : Operation → List Address
  | .createBribe briber _ _ _ _ => [briber]
  | .lock voter _ _ => [voter]
  | .setOwner _ owner => [owner]
  | .fund _ account _ => [account]
  | .transfer _ source target _ => [source, target]
  | _ => []

/-- The number of bribes that an operation can create. -/
def newBribes : Operation → Nat
  | .createBribe .. => 1
  | _ => 0

/-- A basic operation that brings in nothing that another one does not. -/
def IsPart (part operation : Operation) : Prop :=
  part.isBasic = true ∧ part.targets ⊆ operation.targets ∧
    part.outsiders ⊆ operation.outsiders

theorem isPart_of_nothing {part operation : Operation} (hbasic : part.isBasic = true)
    (htargets : part.targets = []) (houtsiders : part.outsiders = []) :
    part.IsPart operation := by
  refine ⟨hbasic, ?_, ?_⟩
  · rw [htargets]
    exact List.nil_subset _
  · rw [houtsiders]
    exact List.nil_subset _

/-- The calls that are made to commit a voter's power to gauges. -/
inductive MakesToCommit (voter : Address) (targets : List Address) : Operation → Prop
  | record {target : Address} (htarget : target ∈ targets) :
      MakesToCommit voter targets (.ensureEpochGauge target none)
  | commit {target : Address} (htarget : target ∈ targets) :
      MakesToCommit voter targets (.commit voter target)

/-- The calls that an operation of several calls makes. -/
inductive Makes : Operation → Operation → Prop
  | wait {time : Timestamp} : Makes .nextEpoch (.passTimeUntil time)
  | advance : Makes .nextEpoch (.advanceEpoch none)
  | create {target : Address} {mints : PerSide Address} :
      Makes (.addGauge target mints) (.createGauge target mints)
  | enable {target : Address} {mints : PerSide Address} :
      Makes (.addGauge target mints) (.setGaugeEnabled none target true)
  | snapshot {voter : Address} {targets : List Address} :
      Makes (.voteEpoch voter targets) (.takeSnapshot voter)
  | commit {voter : Address} {targets : List Address} {part : Operation}
      (hpart : MakesToCommit voter targets part) : Makes (.voteEpoch voter targets) part

theorem Makes.isPart {part operation : Operation} (h : operation.Makes part) :
    part.IsPart operation := by
  cases h with
  | create => exact ⟨rfl, List.Subset.refl _, List.Subset.refl _⟩
  | commit hpart => cases hpart <;> exact isPart_of_nothing rfl rfl rfl
  | _ => exact isPart_of_nothing rfl rfl rfl

theorem Makes.newBribes {part operation : Operation} (h : operation.Makes part) :
    part.newBribes = 0 := by
  cases h with
  | commit hpart => cases hpart <;> rfl
  | _ => rfl

end Operation

namespace Deployment

open EpochVoting.Action

variable {α β : Type} {d : Deployment} {operation : Operation}

theorem afterAll_cons (d : Deployment) (operation : Operation) (rest : List Operation) :
    d.afterAll (operation :: rest) = (d.after operation).afterAll rest :=
  rfl

theorem afterAll_append (d : Deployment) (first rest : List Operation) :
    d.afterAll (first ++ rest) = (d.afterAll first).afterAll rest :=
  List.foldl_append ..

theorem after_eq_leaves (d : Deployment) (operation : Operation) :
    d.after operation = (perform operation).leaves d := by
  unfold after leaves
  cases (perform operation).run d <;> rfl

/-! ## Actions made of parts -/

/-- The action leaves what calls of a kind leave one after the other. -/
def MadeOf (P : Operation → Prop) (x : Action α) (d : Deployment) : Prop :=
  ∃ parts : List Operation, (∀ part ∈ parts, P part) ∧ x.leaves d = d.afterAll parts

variable {P Q : Operation → Prop}

theorem madeOf_of_same {x : Action α} (h : x.leaves d = d) : MadeOf P x d :=
  ⟨[], List.forall_mem_nil _, h⟩

theorem MadeOf.mono {x : Action α} (h : MadeOf P x d) (hPQ : ∀ part, P part → Q part) :
    MadeOf Q x d := by
  obtain ⟨parts, hparts, hlast⟩ := h
  exact ⟨parts, fun part hpart => hPQ part (hparts part hpart), hlast⟩

/-- A call that is a basic operation of its own. -/
theorem madeOf_part {x : Action α} (part : Operation) (hpart : P part)
    (h : d.after part = x.leaves d) : MadeOf P x d := by
  refine ⟨[part], fun p hp => ?_, h.symm⟩
  obtain rfl := List.mem_singleton.mp hp
  exact hpart

theorem madeOf_get_bind {f : Deployment → Action β} (h : MadeOf P (f d) d) :
    MadeOf P (get >>= f) d :=
  h

theorem MadeOf.map {x : Action α} (h : MadeOf P x d) (f : α → β) :
    MadeOf P (f <$> x) d := by
  obtain ⟨parts, hparts, hlast⟩ := h
  exact ⟨parts, hparts, (leaves_map f x d).trans hlast⟩

/-- What follows a call that fails leaves nothing. -/
theorem MadeOf.bind {x : Action α} {f : α → Action β} (hx : MadeOf P x d)
    (hf : ∀ a d', MadeOf P (f a) d') : MadeOf P (x >>= f) d := by
  obtain ⟨first, hfirst, hleft⟩ := hx
  cases hrun : x.run d with
  | error error d' => exact ⟨first, hfirst, (leaves_bind_error hrun).trans hleft⟩
  | ok a d' =>
    obtain ⟨rest, hrest, hlast⟩ := hf a d'
    rw [leaves_of_ok hrun] at hleft
    refine ⟨first ++ rest, fun part hpart => ?_, ?_⟩
    · rcases List.mem_append.mp hpart with hpart | hpart
      · exact hfirst part hpart
      · exact hrest part hpart
    · rw [leaves_bind_ok hrun, hlast, hleft, afterAll_append]

/-! ## Operations taken apart -/

theorem after_ensureEpochGauge (d : Deployment) (gauge : Address) :
    d.after (.ensureEpochGauge gauge none) = (ensureCurrentEpochGauge gauge).leaves d := by
  rw [after_eq_leaves, perform, leaves_get_bind, leaves_map, ensureCurrentEpochGauge,
    leaves_get_bind]
  rfl

theorem after_commit (d : Deployment) (voter gauge : Address) :
    d.after (.commit voter gauge) = (commit voter gauge).leaves d := by
  rw [after_eq_leaves, perform, leaves_map]

theorem after_takeSnapshot (d : Deployment) (voter : Address) :
    d.after (.takeSnapshot voter) = (takeSnapshot voter).leaves d := by
  rw [after_eq_leaves, perform, leaves_map]

/-- Creating records and committing to gauges one after the other. -/
theorem madeOf_commitAll (voter : Address) (all gauges : List Address) (hsub : gauges ⊆ all)
    (allocated : UInt64) (d : Deployment) :
    MadeOf (Operation.MakesToCommit voter all) (commitAll voter allocated gauges) d := by
  induction gauges generalizing allocated d with
  | nil => exact madeOf_of_same rfl
  | cons gauge rest ih =>
    obtain ⟨hgauge, hrest⟩ := List.cons_subset.mp hsub
    refine MadeOf.bind (madeOf_part _ (.record hgauge) (after_ensureEpochGauge d gauge))
      fun _ d₁ => MadeOf.bind (madeOf_part _ (.commit hgauge) (after_commit d₁ voter gauge))
      fun outcome d₂ => ?_
    cases outcome with
    | nothingToCommit => exact ih hrest allocated d₂
    | committed power =>
      exact MadeOf.bind (madeOf_of_same (leaves_lift ..)) fun total d₃ => ih hrest total d₃

/-- An operation that is several calls at once is made of these. -/
theorem madeOf_perform (hseveral : operation.isBasic = false) (d : Deployment) :
    MadeOf operation.Makes (perform operation) d := by
  cases operation with
  | nextEpoch =>
    refine MadeOf.map (madeOf_get_bind (MadeOf.bind ?_ fun _ d₁ => ?_)) _
    · refine madeOf_part (.passTimeUntil d.engine.factory.nextEpochStartsAt) .wait ?_
      rw [after_eq_leaves, perform, leaves_map]
    · refine madeOf_part (.advanceEpoch none) .advance ?_
      rw [after_eq_leaves, perform, leaves_map]
      rfl
  | addGauge target mints =>
    refine MadeOf.bind (MadeOf.bind ?_ fun _ d₁ => MadeOf.bind ?_ fun _ _ => ?_) fun _ _ => ?_
    · refine madeOf_part (.createGauge target mints) .create ?_
      rw [after_eq_leaves, perform, leaves_bind_pure]
    · refine madeOf_part (.setGaugeEnabled none target true) .enable ?_
      rw [after_eq_leaves, perform, leaves_map]
    · exact madeOf_of_same rfl
    · exact madeOf_of_same rfl
  | voteEpoch voter gauges =>
    exact MadeOf.map (MadeOf.bind (madeOf_part _ .snapshot (after_takeSnapshot d voter))
      fun _ d₁ => (madeOf_commitAll voter gauges gauges (List.Subset.refl _) 0 d₁).mono
        fun _ => .commit) _
  | _ => cases hseveral

/-- An operation of several calls leaves what calls that it makes leave one after the
other. -/
theorem after_made (hseveral : operation.isBasic = false) (d : Deployment) :
    ∃ parts : List Operation, (∀ part ∈ parts, operation.Makes part) ∧
      d.after operation = d.afterAll parts := by
  rw [after_eq_leaves]
  exact madeOf_perform hseveral d

/-- What every call that an operation makes keeps, the operation keeps. -/
theorem after_induction {P : Deployment → Prop} (hseveral : operation.isBasic = false)
    (hpart : ∀ part, operation.Makes part → ∀ d, P d → P (d.after part)) (h : P d) :
    P (d.after operation) := by
  obtain ⟨parts, hparts, hlast⟩ := after_made hseveral d
  rw [hlast]
  clear hlast
  induction parts generalizing d with
  | nil => exact h
  | cons part rest ih =>
    exact ih (hpart part (hparts part List.mem_cons_self) d h)
      fun p hp => hparts p (List.mem_cons_of_mem part hp)

/-- What every single call keeps, a run keeps. -/
theorem afterAll_induction {P : Deployment → Prop}
    (hcall : ∀ call : Operation, call.isBasic = true → ∀ d, P d → P (d.after call))
    (run : List Operation) (h : P d) : P (d.afterAll run) := by
  induction run generalizing d with
  | nil => exact h
  | cons operation rest ih =>
    refine ih ?_
    by_cases hbasic : operation.isBasic = true
    · exact hcall operation hbasic d h
    · exact after_induction (Bool.not_eq_true _ ▸ hbasic)
        (fun part hmade => hcall part hmade.isPart.1) h

/-- Voting leaves what the snapshot leaves, and then what the commitments leave. -/
theorem after_voteEpoch (d : Deployment) (voter : Address) (gauges : List Address) :
    ∃ parts : List Operation, (∀ part ∈ parts, Operation.MakesToCommit voter gauges part) ∧
      d.after (.voteEpoch voter gauges) = (d.after (.takeSnapshot voter)).afterAll parts := by
  rw [after_takeSnapshot, after_eq_leaves, perform, leaves_map]
  cases hrun : (takeSnapshot voter).run d with
  | error error d' =>
    exact ⟨[], List.forall_mem_nil _, leaves_bind_error hrun⟩
  | ok taken d' =>
    obtain ⟨parts, hparts, hlast⟩ :=
      madeOf_commitAll voter gauges gauges (List.Subset.refl _) 0 d'
    refine ⟨parts, hparts, ?_⟩
    rw [leaves_of_ok hrun, ← hlast]
    exact leaves_bind_ok hrun

/-- Every operation leaves what some basic operations leave one after the other, and
these bring in nothing more. -/
theorem after_parts (d : Deployment) (operation : Operation) :
    ∃ parts : List Operation, (∀ part ∈ parts, part.IsPart operation) ∧
      (parts.map Operation.newBribes).sum ≤ operation.newBribes ∧
      d.after operation = d.afterAll parts := by
  by_cases hbasic : operation.isBasic = true
  · refine ⟨[operation], fun part hpart => ?_, ?_, rfl⟩
    · obtain rfl := List.mem_singleton.mp hpart
      exact ⟨hbasic, List.Subset.refl _, List.Subset.refl _⟩
    · rw [List.map_singleton, List.sum_singleton]
  · obtain ⟨parts, hparts, hlast⟩ := after_made (Bool.not_eq_true _ ▸ hbasic) d
    have hzero : (parts.map Operation.newBribes).sum = 0 := by
      rw [List.sum_eq_zero_iff]
      intro n hn
      obtain ⟨part, hpart, rfl⟩ := List.mem_map.mp hn
      exact (hparts part hpart).newBribes
    refine ⟨parts, fun part hpart => (hparts part hpart).isPart, ?_, hlast⟩
    rw [hzero]
    exact Nat.zero_le _

/-! ## Records along a run -/

/-- A basic operation changes the records once or not at all. -/
theorem change_of_after (hbasic : operation.isBasic = true) :
    (d.after operation).engine = d.engine ∨ d.engine.Change (d.after operation).engine := by
  rcases engine_after_cases (d := d) hbasic with hsame | ⟨_, hstep⟩
  · exact Or.inl hsame
  · exact hstep.change

/-- A run changes the records step by step. -/
theorem changes_of_afterAll (run : List Operation) (d : Deployment) :
    Relation.ReflTransGen Engine.Change d.engine (d.afterAll run).engine := by
  have hparts (parts : List Operation) (hbasic : ∀ part ∈ parts, part.isBasic = true)
      (d : Deployment) :
      Relation.ReflTransGen Engine.Change d.engine (d.afterAll parts).engine := by
    induction parts generalizing d with
    | nil => exact .refl
    | cons part rest ih =>
      have hrest := ih (fun p hp => hbasic p (List.mem_cons_of_mem part hp)) (d.after part)
      rw [afterAll_cons]
      rcases change_of_after (d := d) (hbasic part List.mem_cons_self) with hsame | hchange
      · rw [hsame] at hrest
        exact hrest
      · exact .head hchange hrest
  induction run generalizing d with
  | nil => exact .refl
  | cons operation rest ih =>
    obtain ⟨parts, hparts', -, hlast⟩ := after_parts d operation
    rw [afterAll_cons]
    refine .trans ?_ (ih (d.after operation))
    rw [hlast]
    exact hparts parts (fun part hpart => (hparts' part hpart).1) d

end Deployment

namespace Engine

variable {e e' : Engine}

/-- All books of the engine are sound. -/
structure Sound (e : Engine) : Prop where
  power : e.PowerSound
  fees : e.FeesSound
  bribes : e.BribesSound

/-- A new engine has empty books. -/
theorem sound_of_create {foreman : Address} {params : FactoryParams}
    (h : create foreman params = .ok e) : e.Sound := by
  obtain ⟨factory, hfactory, heq⟩ := bind_eq_ok_iff.mp h
  cases heq
  have hcount : factory.bribeCount = 0 := by
    obtain ⟨-, due, -, rfl⟩ := Factory.create_eq_ok_iff.mp hfactory
    rfl
  have hids : ∀ id, (∃ b, (Table.empty : Table Bribe).find? id = some b) ↔
      id < factory.bribeCount := by
    intro id
    rw [hcount]
    constructor
    · rintro ⟨b, hb⟩
      cases hb
    · intro hlt
      exact absurd hlt (UInt64.not_lt.mpr UInt64.zero_le)
  exact {
    power := {
      consistent := Commitments.consistent_empty _
      balanced := WeightBook.balanced_empty
      pinned := Commitments.pinned_empty _
      registered := fun _ hr => by cases hr }
    fees := {
      flags := Commitments.flagsSound_empty _
      accrued_eq := fun _ _ hg => by cases hg
      claimed_eq := fun _ _ hg => by cases hg }
    bribes := {
      ids := hids
      terms := fun _ hb => by cases hb
      claims := fun _ hk => by cases hk
      clawbacks := fun _ hk => by cases hk
      claimed_eq := fun _ _ hb => by cases hb
      clawedBack_eq := fun _ _ hb => by cases hb } }

/-- Every change keeps all books sound. -/
theorem Change.sound (h : e.Change e') (hsound : e.Sound) : e'.Sound where
  power := h.powerSound hsound.power
  fees := h.feesSound hsound.power hsound.fees
  bribes := h.bribesSound hsound.bribes

theorem sound_of_changes (h : Relation.ReflTransGen Change e e') (hsound : e.Sound) :
    e'.Sound := by
  induction h with
  | refl => exact hsound
  | tail _ hchange ih => exact hchange.sound ih

/-- The terms of a bribe are never written again. -/
theorem keepsTerms_of_changes (h : Relation.ReflTransGen Change e e') (hsound : e.Sound) :
    e.bribes.KeepsTerms e'.bribes := by
  induction h with
  | refl => exact .refl _
  | tail hbefore hchange ih =>
    exact ih.trans (hchange.keepsTerms (sound_of_changes hbefore hsound).bribes)

end Engine

namespace Deployment

/-- The books of the engine are sound after every run from a new deployment. -/
theorem sound_afterAll {foreman : Address} {params : FactoryParams} {maxLockSecs : UInt64}
    {d : Deployment} (h : create foreman params maxLockSecs = .ok d) (run : List Operation) :
    (d.afterAll run).engine.Sound := by
  obtain ⟨engine, hengine, heq⟩ := bind_eq_ok_iff.mp h
  cases heq
  exact Engine.sound_of_changes (changes_of_afterAll run _) (Engine.sound_of_create hengine)

theorem sound_after {d : Deployment} (h : d.engine.Sound) (operation : Operation) :
    (d.after operation).engine.Sound :=
  Engine.sound_of_changes (changes_of_afterAll [operation] d) h

/-- A run writes no terms of bribes that were there before. -/
theorem keepsTerms_afterAll {d : Deployment} (hsound : d.engine.Sound) (run : List Operation) :
    d.engine.bribes.KeepsTerms (d.afterAll run).engine.bribes :=
  Engine.keepsTerms_of_changes (changes_of_afterAll run d) hsound

end Deployment
end EpochVoting
