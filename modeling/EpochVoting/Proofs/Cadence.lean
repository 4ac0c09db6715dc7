import EpochVoting.Proofs.Checks
import Mathlib.Data.List.Induction
import Mathlib.Data.List.Infix

/-!
# The cadence of epochs

An advance moves the due time by the duration in force, not to the time of the call.  So the
clock of a factory depends on the durations at its advances only, whenever these were made
(`clock_after_calls`).  If the duration stays the same, the epochs follow each other at that
distance from the genesis on.  Whoever then advances at a time until that is refused ends in the
epoch of that time, however many of the epochs had been advanced before (`clock_keeps_cadence`).
-/

namespace EpochVoting
namespace Factory

/-- A call that can change the clock or the administration. -/
inductive Call where
  | advance (now : Timestamp)
  | setEpochDuration (authority : Address) (secs : UInt64)
  | setForeman (authority newForeman : Address)
deriving DecidableEq

/-- Makes a call. -/
def call (f : Factory) : Call → Except VotingError Factory
  | .advance now => f.advance now
  | .setEpochDuration authority secs => f.setEpochDuration authority secs
  | .setForeman authority newForeman => f.setForeman authority newForeman

/-- The factory after a call, whether or not it was refused. -/
def afterCall (f : Factory) (c : Call) : Factory :=
  match f.call c with
  | .ok f' => f'
  | .error _ => f

/-- The factory after a list of calls. -/
def afterCalls (f : Factory) (calls : List Call) : Factory :=
  calls.foldl afterCall f

/-- The duration by which a call moves the due time, if it is an advance that succeeds. -/
def durationAt (f : Factory) : Call → Option UInt64
  | .advance now => (f.advance now).toOption.map fun _ => f.epochDurationSecs
  | _ => none

/-- The durations in force at the advances that succeed, in their order. -/
def durations (f : Factory) : List Call → List UInt64
  | [] => []
  | c :: rest => (f.durationAt c).toList ++ durations (f.afterCall c) rest

/-- The same calls, one of which is made after the other, at the same time. -/
def advances (n : Nat) (now : Timestamp) : List Call :=
  List.replicate n (.advance now)

variable {f f' : Factory} {now : Timestamp} {calls : List Call}

theorem afterCalls_append (f : Factory) (first rest : List Call) :
    f.afterCalls (first ++ rest) = (f.afterCalls first).afterCalls rest :=
  List.foldl_append ..

theorem durations_append (f : Factory) (first rest : List Call) :
    f.durations (first ++ rest) = f.durations first ++ (f.afterCalls first).durations rest := by
  induction first generalizing f with
  | nil => rfl
  | cons c others ih =>
    rw [List.cons_append, durations, durations, ih, List.append_assoc]
    rfl

theorem afterCall_of_ok {c : Call} (h : f.call c = .ok f') : f.afterCall c = f' := by
  unfold afterCall
  rw [h]

/-- A call that is refused changes nothing. -/
theorem afterCall_of_error {c : Call} {error : VotingError} (h : f.call c = .error error) :
    f.afterCall c = f := by
  unfold afterCall
  rw [h]

/-! ## Single calls -/

/-- An advance is refused before its time, and at the end of the numbers. -/
theorem advance_eq_error_iff {error : VotingError} :
    f.advance now = .error error ↔
      now.secs.toNat < f.nextEpochStartsAt.secs.toNat ∧
          error = .epochNotDue now f.nextEpochStartsAt ∨
        f.nextEpochStartsAt.secs.toNat ≤ now.secs.toNat ∧ error = .overflow ∧
          (2 ^ 32 ≤ f.currentEpoch.toNat + 1 ∨
            2 ^ 64 ≤ f.nextEpochStartsAt.secs.toNat + f.epochDurationSecs.toNat) := by
  have hepoch : f.currentEpoch.next? = none ↔ 2 ^ 32 ≤ f.currentEpoch.toNat + 1 := by
    unfold Epoch.next?
    rw [ite_eq_right_iff]
    simp only [reduceCtorEq, imp_false, Nat.not_lt]
    rfl
  have htime : f.nextEpochStartsAt.add? f.epochDurationSecs = none ↔
      2 ^ 64 ≤ f.nextEpochStartsAt.secs.toNat + f.epochDurationSecs.toNat := by
    rw [Timestamp.add?, Option.map_eq_none_iff, Amount.add?_eq_none_iff]
    rfl
  unfold advance
  simp only [bind_eq_error_iff, require_eq_error_iff, demand_eq_error_iff, pure_ne_error,
    require_passes_iff, decide_eq_true_iff, decide_eq_false_iff_not, UInt64.le_iff_toNat_le,
    Nat.not_le, hepoch, htime, and_false, exists_false, or_false, exists_const]
  constructor
  · rintro (⟨hearly, rfl⟩ | ⟨hdue, ⟨hlast, rfl⟩ | ⟨next, -, hlast, rfl⟩⟩)
    · exact Or.inl ⟨hearly, rfl⟩
    · exact Or.inr ⟨hdue, rfl, Or.inl hlast⟩
    · exact Or.inr ⟨hdue, rfl, Or.inr hlast⟩
  · rintro (⟨hearly, rfl⟩ | ⟨hdue, rfl, hlast⟩)
    · exact Or.inl ⟨hearly, rfl⟩
    · refine Or.inr ⟨hdue, ?_⟩
      cases hnext : f.currentEpoch.next? with
      | none => exact Or.inl ⟨hepoch.mp hnext, rfl⟩
      | some next =>
        have hnumbered : ¬ 2 ^ 32 ≤ f.currentEpoch.toNat + 1 := by
          rw [← hepoch, hnext]
          exact Option.some_ne_none next
        exact Or.inr ⟨next, rfl, hlast.resolve_left hnumbered, rfl⟩

theorem durationAt_of_error {c : Call} {error : VotingError} (h : f.call c = .error error) :
    f.durationAt c = none := by
  cases c with
  | advance now =>
    rw [durationAt, show f.advance now = .error error from h]
    rfl
  | _ => rfl

theorem durationAt_of_advance (h : f.advance now = .ok f') :
    f.durationAt (.advance now) = some f.epochDurationSecs := by
  rw [durationAt, h]
  rfl

theorem advance_of_durationAt {c : Call} {duration : UInt64}
    (h : f.durationAt c = some duration) :
    duration = f.epochDurationSecs ∧ ∃ now next, c = .advance now ∧ f.advance now = .ok next := by
  cases c with
  | advance now =>
    obtain ⟨next, hnext, rfl⟩ := Option.map_eq_some_iff.mp h
    cases hadvance : f.advance now with
    | ok f' => exact ⟨rfl, now, f', rfl, hadvance⟩
    | error error =>
      rw [hadvance] at hnext
      cases hnext
  | _ => cases h

/-- An advance counts one epoch and moves the due time by the duration in force; no other call
moves the clock. -/
theorem clock_after_call (f : Factory) (c : Call) :
    (f.afterCall c).currentEpoch.toNat =
        f.currentEpoch.toNat + (f.durationAt c).toList.length ∧
      (f.afterCall c).nextEpochStartsAt.secs.toNat =
        f.nextEpochStartsAt.secs.toNat + ((f.durationAt c).toList.map UInt64.toNat).sum := by
  cases hcall : f.call c with
  | error error =>
    rw [afterCall_of_error hcall, durationAt_of_error hcall]
    exact ⟨rfl, rfl⟩
  | ok f' =>
    rw [afterCall_of_ok hcall]
    cases c with
    | advance now =>
      rw [durationAt_of_advance hcall]
      obtain ⟨-, next, due, hnext, hdue, rfl⟩ := advance_eq_ok_iff.mp hcall
      obtain ⟨secs, hsecs, rfl⟩ := Option.map_eq_some_iff.mp hdue
      exact ⟨hnext, Amount.add?_eq_some_iff.mp hsecs⟩
    | setEpochDuration authority secs =>
      obtain ⟨-, -, rfl⟩ := setEpochDuration_eq_ok_iff.mp hcall
      exact ⟨rfl, rfl⟩
    | setForeman authority newForeman =>
      obtain ⟨-, rfl⟩ := setForeman_eq_ok_iff.mp hcall
      exact ⟨rfl, rfl⟩

/-! ## Sequences of calls -/

/-- The clock after any calls: it has counted the advances and added up their durations. -/
theorem clock_after_calls (f : Factory) (calls : List Call) :
    (f.afterCalls calls).currentEpoch.toNat =
        f.currentEpoch.toNat + (f.durations calls).length ∧
      (f.afterCalls calls).nextEpochStartsAt.secs.toNat =
        f.nextEpochStartsAt.secs.toNat + ((f.durations calls).map UInt64.toNat).sum := by
  induction calls generalizing f with
  | nil => exact ⟨rfl, rfl⟩
  | cons c rest ih =>
    obtain ⟨hepoch, hdue⟩ := f.clock_after_call c
    obtain ⟨hepochs, hdues⟩ := ih (f.afterCall c)
    rw [durations, List.length_append, List.map_append, List.sum_append]
    change ((f.afterCall c).afterCalls rest).currentEpoch.toNat = _ ∧
      ((f.afterCall c).afterCalls rest).nextEpochStartsAt.secs.toNat = _
    omega

/-- Advancing at one time over and over is refused at last: there are only so many epochs. -/
theorem exists_refused (f : Factory) (now : Timestamp) :
    ∃ n error, (∀ k < n, ∃ next, (f.afterCalls (advances k now)).advance now = .ok next) ∧
      (f.afterCalls (advances n now)).advance now = .error error := by
  obtain ⟨left, hleft⟩ : ∃ left, left = 2 ^ 32 - f.currentEpoch.toNat := ⟨_, rfl⟩
  induction left using Nat.strongRecOn generalizing f with
  | ind left ih =>
    cases hadvance : f.advance now with
    | error error => exact ⟨0, error, fun k hk => absurd hk (Nat.not_lt_zero k), hadvance⟩
    | ok next =>
      have hlater : f.afterCall (.advance now) = next := afterCall_of_ok hadvance
      have hcount : next.currentEpoch.toNat = f.currentEpoch.toNat + 1 := by
        obtain ⟨-, epoch, due, hepoch, -, rfl⟩ := advance_eq_ok_iff.mp hadvance
        exact hepoch
      have hbound := next.currentEpoch.toNat_lt
      obtain ⟨n, error, hsucceed, hrefused⟩ :=
        ih (2 ^ 32 - next.currentEpoch.toNat) (by omega) next rfl
      have hafter (k : Nat) : f.afterCalls (advances (k + 1) now) =
          next.afterCalls (advances k now) :=
        congrArg (afterCalls · (advances k now)) hlater
      refine ⟨n + 1, error, fun k hk => ?_, by rw [hafter, hrefused]⟩
      cases k with
      | zero => exact ⟨next, hadvance⟩
      | succ k =>
        rw [hafter]
        exact hsucceed k (by omega)

theorem epochDurationSecs_advance (f : Factory) (now : Timestamp) :
    (f.afterCall (.advance now)).epochDurationSecs = f.epochDurationSecs := by
  cases hadvance : f.call (.advance now) with
  | error error => rw [afterCall_of_error hadvance]
  | ok next =>
    rw [afterCall_of_ok hadvance]
    obtain ⟨-, _, _, -, -, rfl⟩ := advance_eq_ok_iff.mp hadvance
    rfl

/-- The duration was never changed. -/
def KeepsDuration (f : Factory) (calls : List Call) : Prop :=
  ∀ earlier, earlier <+: calls → (f.afterCalls earlier).epochDurationSecs = f.epochDurationSecs

/-- Advancing does not change the duration. -/
theorem KeepsDuration.append_advances (h : f.KeepsDuration calls) (n : Nat) :
    f.KeepsDuration (calls ++ advances n now) := by
  induction n with
  | zero => rwa [show advances 0 now = [] from rfl, List.append_nil]
  | succ n ih =>
    intro earlier hearlier
    rw [advances, List.replicate_succ', ← List.append_assoc, List.prefix_concat_iff] at hearlier
    rcases hearlier with rfl | hearlier
    · rw [afterCalls_append]
      exact (epochDurationSecs_advance _ now).trans (ih _ (List.prefix_refl _))
    · exact ih earlier hearlier

/-- A duration that was never changed is that of all advances. -/
theorem KeepsDuration.durations_eq (h : f.KeepsDuration calls) :
    f.durations calls = List.replicate (f.durations calls).length f.epochDurationSecs := by
  refine List.eq_replicate_of_mem fun duration hmem => ?_
  induction calls using List.reverseRecOn with
  | nil => cases hmem
  | append_singleton done c ih =>
    rw [durations_append, List.mem_append] at hmem
    rcases hmem with hmem | hmem
    · exact ih (fun earlier hearlier => h earlier (hearlier.trans (List.prefix_append ..))) hmem
    · rw [durations, durations, List.append_nil, Option.mem_toList] at hmem
      obtain ⟨rfl, -⟩ := advance_of_durationAt hmem
      exact h done (List.prefix_append ..)

/-- As long as the duration stays the same, every epoch but the first began at one of the times
of the calls or before. -/
theorem KeepsDuration.epoch_has_begun (h : f.KeepsDuration calls)
    (hfirst : f.currentEpoch.toNat = 1)
    (hbefore : ∀ time, .advance time ∈ calls → time.secs ≤ now.secs) :
    (f.afterCalls calls).currentEpoch.toNat = 1 ∨
      (f.afterCalls calls).nextEpochStartsAt.secs.toNat ≤
        now.secs.toNat + f.epochDurationSecs.toNat := by
  induction calls using List.reverseRecOn with
  | nil => exact Or.inl hfirst
  | append_singleton done c ih =>
    have hdone := ih (fun earlier hearlier => h earlier (hearlier.trans (List.prefix_append ..)))
      fun time htime => hbefore time (List.mem_append_left _ htime)
    have hduration := h done (List.prefix_append ..)
    rw [afterCalls_append]
    change ((f.afterCalls done).afterCall c).currentEpoch.toNat = 1 ∨
      ((f.afterCalls done).afterCall c).nextEpochStartsAt.secs.toNat ≤ _
    obtain ⟨hepoch, hdue⟩ := (f.afterCalls done).clock_after_call c
    cases hmoves : (f.afterCalls done).durationAt c with
    | none =>
      rw [hmoves] at hepoch hdue
      exact hdone.imp hepoch.trans hdue.trans_le
    | some duration =>
      -- An advance that succeeded was made when the epoch before it was over.
      obtain ⟨rfl, time, later, rfl, hadvance⟩ := advance_of_durationAt hmoves
      have hpast := (advance_eq_ok_iff.mp hadvance).1
      have htime := hbefore time (List.mem_append_right _ List.mem_cons_self)
      rw [UInt64.le_iff_toNat_le] at hpast htime
      rw [hmoves, Option.toList_some, List.map_singleton, List.sum_singleton, hduration] at hdue
      omega

/-- A factory that cannot advance yet is in the epoch of the time, counted from the genesis. -/
theorem KeepsDuration.epoch_eq (h : f.KeepsDuration calls) (hfirst : f.currentEpoch.toNat = 1)
    (hpositive : 0 < f.epochDurationSecs.toNat) {genesis : Nat}
    (hgenesis : f.nextEpochStartsAt.secs.toNat = genesis + f.epochDurationSecs.toNat)
    (hbefore : ∀ time, .advance time ∈ calls → time.secs ≤ now.secs)
    (hearly : now.secs.toNat < (f.afterCalls calls).nextEpochStartsAt.secs.toNat) :
    (f.afterCalls calls).currentEpoch.toNat =
      1 + (now.secs.toNat - genesis) / f.epochDurationSecs.toNat := by
  obtain ⟨hepoch, hdue⟩ := f.clock_after_calls calls
  have hbegun := h.epoch_has_begun hfirst hbefore
  rw [h.durations_eq, List.map_replicate, List.sum_replicate_nat, hgenesis] at hdue
  rw [hfirst] at hepoch
  rw [hepoch, Nat.add_left_cancel_iff]
  have hnext : ((f.durations calls).length + 1) * f.epochDurationSecs.toNat =
      (f.durations calls).length * f.epochDurationSecs.toNat + f.epochDurationSecs.toNat :=
    Nat.succ_mul ..
  refine (Nat.div_eq_of_lt_le ?_ (by omega)).symm
  -- The first epoch may have begun after the time, but nothing has passed since then.
  rcases hbegun with hnone | hbegun
  · have hzero : (f.durations calls).length = 0 := by omega
    rw [hzero, Nat.zero_mul]
    exact Nat.zero_le _
  · omega

/-- The factory refuses to advance at the time, and stays as it is. -/
inductive Stopped (f : Factory) (now : Timestamp) (params : FactoryParams) : Prop
  /-- The next epoch or its end has no number. -/
  | exhausted (hrefused : f.advance now = .error .overflow)
      (hkept : f.afterCall (.advance now) = f)
      (hlast : 2 ^ 32 ≤ f.currentEpoch.toNat + 1 ∨
        2 ^ 64 ≤ f.nextEpochStartsAt.secs.toNat + params.epochDurationSecs.toNat)
  /-- The factory is in the epoch of that time. -/
  | upToDate (hrefused : f.advance now = .error (.epochNotDue now f.nextEpochStartsAt))
      (hepoch : f.currentEpoch.toNat =
        1 + (now.secs.toNat - params.genesis.secs.toNat) / params.epochDurationSecs.toNat)

/-- The clock of a factory is given by the durations in force at the advances that succeeded,
whatever the times of the calls were.  If the duration was never changed, then advancing at a
time that is not before those of the other calls is refused after finitely many advances, and
unless there are no more epochs to advance to, the factory is in the epoch of that time. -/
theorem clock_keeps_cadence {foreman : Address} {params : FactoryParams}
    (hcreate : create foreman params = .ok f) (calls : List Call) :
    ((f.afterCalls calls).currentEpoch.toNat = 1 + (f.durations calls).length ∧
      (f.afterCalls calls).nextEpochStartsAt.secs.toNat = params.genesis.secs.toNat +
        params.epochDurationSecs.toNat + ((f.durations calls).map UInt64.toNat).sum) ∧
    (∀ others, f.durations others = f.durations calls →
      (f.afterCalls others).currentEpoch = (f.afterCalls calls).currentEpoch ∧
        (f.afterCalls others).nextEpochStartsAt = (f.afterCalls calls).nextEpochStartsAt) ∧
    ∀ now : Timestamp,
      f.KeepsDuration calls → (∀ time, .advance time ∈ calls → time.secs ≤ now.secs) →
      ∃ n, (∀ k < n, ∃ next,
          (f.afterCalls (calls ++ advances k now)).advance now = .ok next) ∧
        (f.afterCalls (calls ++ advances n now)).Stopped now params := by
  obtain ⟨hpositive, due, hdue, rfl⟩ := create_eq_ok_iff.mp hcreate
  obtain ⟨secs, hsecs, rfl⟩ := Option.map_eq_some_iff.mp hdue
  rw [Amount.add?_eq_some_iff] at hsecs
  generalize hnew : Factory.mk foreman params.epochDurationSecs Epoch.first ⟨secs⟩ 0 = f at *
  have hfirst : f.currentEpoch.toNat = 1 := by
    rw [← hnew]
    rfl
  have hdue : f.nextEpochStartsAt.secs.toNat =
      params.genesis.secs.toNat + params.epochDurationSecs.toNat := by
    rw [← hnew]
    exact hsecs
  have hduration : params.epochDurationSecs = f.epochDurationSecs := by rw [← hnew]
  have hclock := f.clock_after_calls
  rw [hfirst, hdue] at hclock
  refine ⟨hclock calls, fun others hsame => ?_, fun now hkeeps hbefore => ?_⟩
  · have hothers := hclock others
    rw [hsame, ← (hclock calls).1, ← (hclock calls).2] at hothers
    obtain ⟨hepoch, hnext⟩ := hothers
    exact ⟨UInt32.toNat_inj.mp hepoch, congrArg Timestamp.mk (UInt64.toNat_inj.mp hnext)⟩
  · obtain ⟨n, error, hsucceed, hrefused⟩ := (f.afterCalls calls).exists_refused now
    simp only [← afterCalls_append] at hsucceed hrefused
    refine ⟨n, hsucceed, ?_⟩
    have hall : f.KeepsDuration (calls ++ advances n now) := hkeeps.append_advances n
    rw [hduration] at hdue hpositive
    rw [Ne, ← UInt64.toNat_inj] at hpositive
    rcases advance_eq_error_iff.mp hrefused with ⟨hearly, rfl⟩ | ⟨-, rfl, hlast⟩
    · refine .upToDate hrefused ?_
      rw [hduration]
      refine hall.epoch_eq hfirst (Nat.pos_of_ne_zero hpositive) hdue (fun time htime => ?_) hearly
      rcases List.mem_append.mp htime with htime | htime
      · exact hbefore time htime
      · cases List.eq_of_mem_replicate htime
        exact UInt64.le_refl _
    · rw [hall _ (List.prefix_refl _), ← hduration] at hlast
      exact .exhausted hrefused (afterCall_of_error hrefused) hlast

/-- Epochs of three seconds from time ten.  The new foreman asks for the same duration again, and
at time nineteen two advances are missing. -/
theorem clock_keeps_cadence_late :
    ∃ f n, create Address.zero ⟨3, ⟨10⟩⟩ = .ok f ∧
      (f.afterCalls ([.setForeman Address.zero Address.zero, .advance ⟨11⟩,
        .setEpochDuration Address.zero 3, .advance ⟨13⟩] ++ advances n ⟨19⟩)).Stopped ⟨19⟩
          ⟨3, ⟨10⟩⟩ := by
  let f : Factory := ⟨Address.zero, 3, 1, ⟨13⟩, 0⟩
  let calls : List Call := [.setForeman Address.zero Address.zero, .advance ⟨11⟩,
    .setEpochDuration Address.zero 3, .advance ⟨13⟩]
  have hsame : ∀ earlier ∈ List.inits calls, (f.afterCalls earlier).epochDurationSecs = 3 := by
    decide
  obtain ⟨-, -, hstops⟩ := @clock_keeps_cadence f Address.zero ⟨3, ⟨10⟩⟩ rfl calls
  obtain ⟨n, -, hstopped⟩ := hstops ⟨19⟩
    (fun earlier hearlier => hsame earlier ((List.mem_inits ..).mpr hearlier))
    (by simp [calls])
  exact ⟨f, n, rfl, hstopped⟩

end Factory
end EpochVoting
