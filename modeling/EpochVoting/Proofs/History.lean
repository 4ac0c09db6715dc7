import EpochVoting.Proofs.Frame

/-!
# Histories

What happened on the way of a run: `d.Occurs P run` if some operation of the run, made on
the deployment that those before it left, is of the kind `P`.  A call counts when it
succeeds.

A voter's sequence number tells whether the voter's weights were set in between
(`seqno_afterAll_eq_iff`).
-/

namespace EpochVoting
namespace Deployment

open EpochVoting.Action

variable {d : Deployment} {operation : Operation} {voter : Address}

/-- What an operation answers. -/
def answer (d : Deployment) (operation : Operation) : Except VotingError Reply :=
  match (perform operation).run d with
  | .ok reply _ => .ok reply
  | .error error _ => .error error

/-- What the operations of a run answer, each made on the deployment that those before it
left. -/
def answers (d : Deployment) : List Operation → List (Except VotingError Reply)
  | [] => []
  | operation :: rest => d.answer operation :: answers (d.after operation) rest

/-- Some operation of the run is of the kind `P`, where it is made. -/
def Occurs (P : Deployment → Operation → Prop) (d : Deployment) : List Operation → Prop
  | [] => False
  | operation :: rest => P d operation ∨ Occurs P (d.after operation) rest

variable {P : Deployment → Operation → Prop}

theorem occurs_append (first rest : List Operation) (d : Deployment) :
    d.Occurs P (first ++ rest) ↔ d.Occurs P first ∨ (d.afterAll first).Occurs P rest := by
  induction first generalizing d with
  | nil => exact (or_iff_right False.elim).symm
  | cons operation done ih =>
    rw [List.cons_append, Occurs, Occurs, ih (d.after operation), or_assoc]
    rfl

/-- The last operation of a run, or one before it. -/
theorem occurs_append_singleton (done : List Operation) (operation : Operation)
    (d : Deployment) :
    d.Occurs P (done ++ [operation]) ↔ d.Occurs P done ∨ P (d.afterAll done) operation := by
  rw [occurs_append, Occurs, Occurs, or_false]

/-- What no operation of the run is cannot occur. -/
theorem not_occurs {run : List Operation} (h : ∀ operation ∈ run, ∀ d, ¬ P d operation)
    (d : Deployment) : ¬ d.Occurs P run := by
  induction run generalizing d with
  | nil => exact id
  | cons operation rest ih =>
    obtain ⟨hfirst, hrest⟩ := List.forall_mem_cons.mp h
    rintro (hhere | hlater)
    · exact hfirst d hhere
    · exact ih hrest (d.after operation) hlater

/-! ## Weights -/

/-- The operation sets a weight of the voter. -/
def SetsWeight (voter : Address) (d : Deployment) : Operation → Prop
  | .setVote authority v gauge weight =>
    v = voter ∧ ∃ change d', (setVote authority voter gauge weight).run d = .ok change d'
  | _ => False

theorem seqno_of_setVote {authority : Option Address} {v gauge : Address} {weight : UInt32}
    {change : VoteChange} {d' : Deployment}
    (h : (setVote authority v gauge weight).run d = .ok change d') :
    (d'.engine.weights.seqno v).toNat = (d.engine.weights.seqno v).toNat + 1 ∧
      ∀ voter, v ≠ voter → d'.engine.weights.seqno voter = d.engine.weights.seqno voter := by
  obtain ⟨e, hcall, rfl⟩ := run_onEngine_eq_ok_iff.mp h
  obtain ⟨_, -, hlocked⟩ := bind_eq_ok_iff.mp hcall
  obtain ⟨_, -, hallowed⟩ := bind_eq_ok_iff.mp hlocked
  obtain ⟨g, hgauge, hfound⟩ := bind_eq_ok_iff.mp hallowed
  obtain ⟨⟨_, weights⟩, hset, heq⟩ := bind_eq_ok_iff.mp hfound
  cases heq
  obtain ⟨total, seqno, rfl, -, hseqno⟩ := WeightBook.write_of_setVote hset
  constructor
  · show ((d.engine.weights.write ..).seqno v).toNat = _
    rw [WeightBook.seqno_write, if_pos rfl]
    exact hseqno
  · intro voter hother
    exact (WeightBook.seqno_write voter g.target).trans (if_neg hother)

/-- Setting a weight of the voter adds one to the voter's sequence number, and nothing
else moves it. -/
theorem seqno_after (d : Deployment) (operation : Operation) (voter : Address) :
    (d.SetsWeight voter operation → ((d.after operation).engine.weights.seqno voter).toNat =
      (d.engine.weights.seqno voter).toNat + 1) ∧
    (¬ d.SetsWeight voter operation →
      (d.after operation).engine.weights.seqno voter = d.engine.weights.seqno voter) := by
  cases operation with
  | setVote authority v gauge weight =>
    have hafter : d.after (.setVote authority v gauge weight) =
        (setVote authority v gauge weight).leaves d := by
      rw [after_eq_leaves, perform, leaves_map]
    rw [hafter]
    cases hrun : (setVote authority v gauge weight).run d with
    | ok change d' =>
      rw [leaves_of_ok hrun]
      obtain ⟨hnext, hothers⟩ := seqno_of_setVote hrun
      constructor
      · rintro ⟨rfl, -⟩
        exact hnext
      · intro hnot
        refine hothers voter ?_
        rintro rfl
        exact hnot ⟨rfl, change, d', hrun⟩
    | error error d' =>
      have hsame : (setVote authority v gauge weight).leaves d = d :=
        leaves_of_error (atomic_onEngine _) hrun
      rw [hsame]
      refine ⟨?_, fun _ => rfl⟩
      rintro ⟨rfl, change, d', hok⟩
      rw [hrun] at hok
      cases hok
  | _ =>
    refine ⟨False.elim, fun _ => congrArg (WeightBook.seqno · voter) (frame d _ .weights ?_)⟩
    simp [Operation.writes]

/-- The voter's sequence number is the same after a run exactly if the run sets none of
the voter's weights. -/
theorem seqno_afterAll_eq_iff (run : List Operation) (d : Deployment) (voter : Address) :
    (d.afterAll run).engine.weights.seqno voter = d.engine.weights.seqno voter ↔
      ¬ d.Occurs (SetsWeight voter) run := by
  suffices hgrows : (d.Occurs (SetsWeight voter) run → (d.engine.weights.seqno voter).toNat <
      ((d.afterAll run).engine.weights.seqno voter).toNat) ∧
      (¬ d.Occurs (SetsWeight voter) run →
        (d.afterAll run).engine.weights.seqno voter = d.engine.weights.seqno voter) by
    refine ⟨fun hsame hoccurs => ?_, hgrows.2⟩
    have hlt := hgrows.1 hoccurs
    rw [hsame] at hlt
    exact Nat.lt_irrefl _ hlt
  induction run generalizing d with
  | nil => exact ⟨False.elim, fun _ => rfl⟩
  | cons operation rest ih =>
    obtain ⟨hset, hkept⟩ := seqno_after d operation voter
    obtain ⟨hgrow, hsame⟩ := ih (d.after operation)
    rw [afterAll_cons, Occurs]
    by_cases hsets : d.SetsWeight voter operation
    · refine ⟨fun _ => ?_, fun hnot => absurd (Or.inl hsets) hnot⟩
      have hfirst := hset hsets
      by_cases hlater : (d.after operation).Occurs (SetsWeight voter) rest
      · have hrest := hgrow hlater
        omega
      · rw [hsame hlater]
        omega
    · rw [← hkept hsets]
      refine ⟨fun hoccurs => hgrow (hoccurs.resolve_left hsets), fun hnot => hsame fun hlater =>
        hnot (Or.inr hlater)⟩

end Deployment
end EpochVoting
