import EpochVoting.Proofs.Run

/-!
# What an operation can write

Every operation has a fixed list of the books of the engine that it can write
(`Operation.writes`), and all other books are after the operation what they were before
it, whether it succeeded or not (`Deployment.frame`).
-/

namespace EpochVoting

/-- The books of an engine. -/
inductive Book where
  | factory
  | registry
  | weights
  | commitments
  | bribes
deriving DecidableEq

/-- The books that an operation can write. -/
def Operation.writes : Operation → List Book
  | .advanceEpoch _ | .setForeman .. | .setEpochDuration .. | .nextEpoch => [.factory]
  | .createGauge .. | .setGaugeEnabled .. | .addGauge .. => [.registry]
  | .setVote .. => [.weights]
  | .takeSnapshot _ | .resetSnapshot _ | .commit .. | .revert .. | .close .. => [.commitments]
  | .ensureEpochGauge .. | .cleanEpochGauge .. | .claimFee .. | .voteEpoch .. =>
    [.registry, .commitments]
  | .createBribe .. => [.factory, .bribes]
  | .claimBribe .. | .clawBackBribe .. => [.bribes]
  | _ => []

/-- The calls of an operation write no more than the operation. -/
theorem Operation.Makes.writes {part operation : Operation} (h : operation.Makes part) :
    part.writes ⊆ operation.writes := by
  cases h with
  | commit hpart => cases hpart <;> simp [Operation.writes]
  | _ => simp [Operation.writes]

namespace Engine

/-- One book is the same in both. -/
def SameBook (e e' : Engine) : Book → Prop
  | .factory => e'.factory = e.factory
  | .registry => e'.registry = e.registry
  | .weights => e'.weights = e.weights
  | .commitments => e'.commitments = e.commitments
  | .bribes => e'.bribes = e.bribes

theorem SameBook.refl (e : Engine) (book : Book) : e.SameBook e book := by
  cases book <;> rfl

theorem SameBook.trans {e e' e'' : Engine} {book : Book} (h : e.SameBook e' book)
    (h' : e'.SameBook e'' book) : e.SameBook e'' book := by
  cases book <;> exact Eq.trans h' h

/-- The books that are not written are the same. -/
def Keeps (e : Engine) (written : List Book) (e' : Engine) : Prop :=
  ∀ book ∉ written, e.SameBook e' book

variable {e : Engine} {written : List Book}

theorem keeps_refl : e.Keeps written e :=
  fun book _ => .refl e book

theorem keeps_factory {factory : Factory} : e.Keeps [.factory] { e with factory } := by
  intro book hbook
  cases book <;> first | rfl | exact absurd (by decide) hbook

theorem keeps_registry {registry : Registry} : e.Keeps [.registry] { e with registry } := by
  intro book hbook
  cases book <;> first | rfl | exact absurd (by decide) hbook

theorem keeps_weights {weights : WeightBook} : e.Keeps [.weights] { e with weights } := by
  intro book hbook
  cases book <;> first | rfl | exact absurd (by decide) hbook

theorem keeps_commitments {commitments : Commitments} :
    e.Keeps [.commitments] { e with commitments } := by
  intro book hbook
  cases book <;> first | rfl | exact absurd (by decide) hbook

theorem keeps_bribes {bribes : BribeLedger} : e.Keeps [.bribes] { e with bribes } := by
  intro book hbook
  cases book <;> first | rfl | exact absurd (by decide) hbook

/-- The gauges and the records of epochs, written together. -/
theorem keeps_records {registry : Registry} {commitments : Commitments} :
    e.Keeps [.registry, .commitments] { e with registry, commitments } := by
  intro book hbook
  cases book <;> first | rfl | exact absurd (by decide) hbook

theorem keeps_recordBribe {b : Bribe} : e.Keeps [.factory, .bribes] (e.recordBribe b) := by
  intro book hbook
  cases book <;> first | rfl | exact absurd (by decide) hbook

end Engine

namespace Deployment

open Engine

variable {d d' : Deployment} {operation : Operation} {reply : Reply}

/-- A step keeps the books that its operation cannot write. -/
theorem Step.keeps (h : Step d operation reply d') :
    d.engine.Keeps operation.writes d'.engine := by
  cases h with
  | advanceEpoch hcall =>
    obtain ⟨_, -, heq⟩ := bind_eq_ok_iff.mp hcall
    cases heq
    exact keeps_factory
  | setForeman hcall =>
    obtain ⟨_, -, heq⟩ := bind_eq_ok_iff.mp hcall
    cases heq
    exact keeps_factory
  | setEpochDuration hcall =>
    obtain ⟨_, -, heq⟩ := bind_eq_ok_iff.mp hcall
    cases heq
    exact keeps_factory
  | createGauge hcall =>
    obtain ⟨-, rfl⟩ := createGauge_eq_ok_iff.mp hcall
    exact keeps_registry
  | setGaugeEnabled hcall =>
    obtain ⟨_, -, rfl⟩ := setGaugeEnabled_eq_ok hcall
    exact keeps_registry
  | setVote hcall =>
    obtain ⟨_, -, hlocked⟩ := bind_eq_ok_iff.mp hcall
    obtain ⟨_, -, hallowed⟩ := bind_eq_ok_iff.mp hlocked
    obtain ⟨_, -, hfound⟩ := bind_eq_ok_iff.mp hallowed
    obtain ⟨_, -, heq⟩ := bind_eq_ok_iff.mp hfound
    cases heq
    exact keeps_weights
  | takeSnapshot hcall =>
    unfold Engine.takeSnapshot at hcall
    split at hcall
    · cases hcall
      exact keeps_refl
    · obtain ⟨_, -, heq⟩ := bind_eq_ok_iff.mp hcall
      cases heq
      exact keeps_commitments
  | resetSnapshot hcall =>
    obtain ⟨_, -, hpower⟩ := bind_eq_ok_iff.mp hcall
    obtain ⟨_, -, heq⟩ := bind_eq_ok_iff.mp hpower
    cases heq
    exact keeps_commitments
  | commit hcall =>
    obtain ⟨_, -, hfound⟩ := bind_eq_ok_iff.mp hcall
    obtain ⟨_, -, heq⟩ := bind_eq_ok_iff.mp hfound
    cases heq
    exact keeps_commitments
  | revert hcall =>
    obtain ⟨_, -, hallowed⟩ := bind_eq_ok_iff.mp hcall
    obtain ⟨_, -, hlive⟩ := bind_eq_ok_iff.mp hallowed
    obtain ⟨_, -, heq⟩ := bind_eq_ok_iff.mp hlive
    cases heq
    exact keeps_commitments
  | close hcall =>
    obtain ⟨_, -, hallowed⟩ := bind_eq_ok_iff.mp hcall
    obtain ⟨_, -, helapsed⟩ := bind_eq_ok_iff.mp hallowed
    obtain ⟨_, -, heq⟩ := bind_eq_ok_iff.mp helapsed
    cases heq
    exact keeps_commitments
  | captured | cleaned | feePaid => exact keeps_records
  | bribeCreated => exact keeps_recordBribe
  | bribePaid | bribeReturned => exact keeps_bribes
  | _ => exact keeps_refl

/-- Operations that cannot write a book leave it as it is. -/
theorem keeps_after (hbasic : operation.isBasic = true) :
    d.engine.Keeps operation.writes (d.after operation).engine := by
  rcases engine_after_cases (d := d) hbasic with hsame | ⟨_, hstep⟩
  · rw [hsame]
    exact keeps_refl
  · exact hstep.keeps

/-- An operation keeps the books that it cannot write, whether or not it succeeds. -/
theorem frame (d : Deployment) (operation : Operation) :
    d.engine.Keeps operation.writes (d.after operation).engine := by
  by_cases hbasic : operation.isBasic = true
  · exact keeps_after hbasic
  intro book hbook
  refine after_induction (P := fun d' => d.engine.SameBook d'.engine book)
    (Bool.not_eq_true _ ▸ hbasic) ?_ (.refl d.engine book)
  intro part hmade d' hkept
  exact hkept.trans (keeps_after hmade.isPart.1 book fun hwritten =>
    hbook (hmade.writes hwritten))

end Deployment
end EpochVoting
