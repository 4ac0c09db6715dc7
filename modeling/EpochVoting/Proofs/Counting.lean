import EpochVoting.Proofs.Audit

/-!
# Counting by key

A loop that adds amounts to what it has counted for their keys ends with the sum for every
key, or is refused because one of these sums is no amount.  Both depend on the amounts and
not on their order: what a loop adds determines what it answers (`Audit.Adds.unique`).
-/

namespace EpochVoting
namespace Audit

/-! ## Computations that can only overflow -/

section

variable {α β ρ : Type} {x y : Except Violation α}

/-- A computation that is refused, if at all, because a sum is no amount. -/
def OnlyOverflows (x : Except Violation α) : Prop :=
  ∀ violation, x = .error violation → violation = .overflow

theorem onlyOverflows_pure (a : α) : OnlyOverflows (pure a) :=
  fun _ h => nomatch h

theorem onlyOverflows_demand (o : Option α) : OnlyOverflows (demand .overflow o) :=
  fun _ h => (demand_eq_error_iff.mp h).2.symm

theorem onlyOverflows_add (a b : UInt64) : OnlyOverflows (add a b) :=
  onlyOverflows_demand _

theorem onlyOverflows_sum (amounts : List UInt64) : OnlyOverflows (sum amounts) :=
  onlyOverflows_demand _

theorem OnlyOverflows.bind {f : α → Except Violation β} (hx : OnlyOverflows x)
    (hf : ∀ a, OnlyOverflows (f a)) : OnlyOverflows (x >>= f) := by
  intro violation h
  obtain hrefused | ⟨a, -, hrest⟩ := bind_eq_error_iff.mp h
  · exact hx violation hrefused
  · exact hf a violation hrest

theorem onlyOverflows_foldlM {f : α → ρ → Except Violation α}
    (hf : ∀ a r, OnlyOverflows (f a r)) (records : List ρ) :
    ∀ a, OnlyOverflows (records.foldlM f a) := by
  induction records with
  | nil => exact onlyOverflows_pure
  | cons r rest ih =>
    intro a
    rw [List.foldlM_cons]
    exact (hf a r).bind ih

theorem onlyOverflows_forM {f : ρ → Except Violation Unit} (hf : ∀ r, OnlyOverflows (f r))
    (records : List ρ) : OnlyOverflows (records.forM f) := by
  induction records with
  | nil => exact onlyOverflows_pure ()
  | cons r rest ih =>
    show OnlyOverflows (f r >>= fun _ => rest.forM f)
    exact (hf r).bind fun _ => ih

/-- Such a computation is known by what it answers if it is not refused. -/
theorem OnlyOverflows.eq (hx : OnlyOverflows x) (hy : OnlyOverflows y)
    (h : ∀ a, x = .ok a ↔ y = .ok a) : x = y := by
  cases x with
  | ok a => exact ((h a).mp rfl).symm
  | error violation =>
    cases y with
    | ok a => exact (h a).mpr rfl
    | error violation' => rw [hx violation rfl, hy violation' rfl]

/-- Of two such computations that go through together, one is refused as the other is. -/
theorem OnlyOverflows.refused (hx : OnlyOverflows x) {check : Except Violation Unit}
    (hcheck : OnlyOverflows check) (h : (∃ a, x = .ok a) ↔ check = .ok ())
    {violation : Violation} (hrefused : x = .error violation) : check = .error violation := by
  obtain rfl := hx violation hrefused
  cases check with
  | error violation' => rw [hcheck violation' rfl]
  | ok =>
    obtain ⟨a, ha⟩ := h.mpr rfl
    rw [hrefused] at ha
    cases ha

end

/-! ## Sums by key -/

section Counting

variable {κ ρ : Type} [DecidableEq κ] {f g : (κ → UInt64) → Except Violation (κ → UInt64)}
  {part part' : κ → Nat} {counts counts' : κ → UInt64} {key : κ} {amount : UInt64}

/-- The counts with an amount added at one key. -/
def addAt (counts : κ → UInt64) (key : κ) (amount : UInt64) :
    Except Violation (κ → UInt64) := do
  let total ← add (counts key) amount
  return fun k => if key = k then total else counts k

/-- A computation that adds some number at each key, and is refused only because a sum is no
amount. -/
structure Adds (f : (κ → UInt64) → Except Violation (κ → UInt64)) (part : κ → Nat) : Prop where
  ok_iff : ∀ {counts counts'}, f counts = .ok counts' ↔
    ∀ k, (counts' k).toNat = (counts k).toNat + part k
  refused : ∀ counts, OnlyOverflows (f counts)

theorem adds_addAt (key : κ) (amount : UInt64) :
    Adds (fun counts => addAt counts key amount) fun k => if key = k then amount.toNat else 0 where
  ok_iff := by
    intro counts counts'
    simp only [addAt, bind_eq_ok_iff, add_eq_ok_iff, pure_eq_ok_iff]
    constructor
    · rintro ⟨total, htotal, rfl⟩ k
      by_cases hkey : key = k
      · subst hkey
        simpa using htotal
      · simp [hkey]
    · intro h
      refine ⟨counts' key, by simpa using h key, ?_⟩
      funext k
      by_cases hkey : key = k
      · simp [hkey]
      · have hsame := h k
        rw [if_neg hkey, Nat.add_zero, UInt64.toNat_inj] at hsame
        simp [hkey, hsame]
  refused _ := (onlyOverflows_add _ _).bind fun _ => onlyOverflows_pure _

omit [DecidableEq κ] in
/-- The computation that adds nothing. -/
theorem adds_pure : Adds (fun counts : κ → UInt64 => pure counts) fun _ => 0 where
  ok_iff := by
    intro counts counts'
    rw [pure_eq_ok_iff]
    constructor
    · rintro rfl k
      rfl
    · intro h
      funext k
      exact (UInt64.toNat_inj.mp (h k)).symm
  refused := onlyOverflows_pure

omit [DecidableEq κ] in
/-- One computation after another adds both numbers: if their sum is an amount, so is the
first. -/
theorem Adds.bind (hf : Adds f part) (hg : Adds g part') :
    Adds (fun counts => f counts >>= g) fun k => part k + part' k where
  ok_iff := by
    intro counts counts'
    simp only [bind_eq_ok_iff, hf.ok_iff, hg.ok_iff]
    constructor
    · rintro ⟨middle, hfirst, hsecond⟩ k
      have hk := hsecond k
      have hm := hfirst k
      omega
    · intro h
      have hmiddle (k : κ) : (UInt64.ofNat ((counts k).toNat + part k)).toNat =
          (counts k).toNat + part k := by
        have hlt := (counts' k).toNat_lt
        have hk := h k
        exact Amount.toNat_ofNat (by omega)
      refine ⟨fun k => UInt64.ofNat ((counts k).toNat + part k), hmiddle, fun k => ?_⟩
      rw [hmiddle, h k, Nat.add_assoc]
  refused counts := (hf.refused counts).bind hg.refused

omit [DecidableEq κ] in
/-- A loop adds what its passes add. -/
theorem adds_foldlM {pass : (κ → UInt64) → ρ → Except Violation (κ → UInt64)}
    {part : ρ → κ → Nat} (hpass : ∀ r, Adds (fun counts => pass counts r) (part r))
    (records : List ρ) :
    Adds (fun counts => records.foldlM pass counts)
      fun k => (records.map fun r => part r k).sum := by
  induction records with
  | nil => exact adds_pure
  | cons r rest ih =>
    simp only [List.foldlM_cons, List.map_cons, List.sum_cons]
    exact (hpass r).bind ih

omit [DecidableEq κ] in
theorem Adds.congr (hf : Adds f part) (hpart : ∀ k, part k = part' k) : Adds f part' where
  ok_iff := by
    intro counts counts'
    rw [hf.ok_iff]
    simp only [hpart]
  refused := hf.refused

omit [DecidableEq κ] in
/-- What a computation adds determines what it answers. -/
theorem Adds.unique (hf : Adds f part) (hg : Adds g part') (hpart : ∀ k, part k = part' k) :
    f = g := by
  funext counts
  refine (hf.refused counts).eq (hg.refused counts) fun counts' => ?_
  simp only [hf.ok_iff, hg.ok_iff, hpart]

omit [DecidableEq κ] in
/-- Counting from nothing goes through exactly if the numbers are amounts. -/
theorem Adds.fits_iff (hf : Adds f part) :
    (∃ counts, f (fun _ => 0) = .ok counts) ↔ ∀ k, part k < 2 ^ 64 := by
  simp only [hf.ok_iff, UInt64.toNat_zero, Nat.zero_add]
  constructor
  · rintro ⟨counts, hcounts⟩ k
    rw [← hcounts k]
    exact (counts k).toNat_lt
  · exact fun h => ⟨fun k => UInt64.ofNat (part k), fun k => Amount.toNat_ofNat (h k)⟩

end Counting

/-- Adding up one amount after the other is refused exactly if their sum is. -/
theorem foldlM_add_eq_sum (amounts : List UInt64) : amounts.foldlM add 0 = sum amounts := by
  have hfold (amounts : List UInt64) : ∀ start total, amounts.foldlM add start = .ok total ↔
      total.toNat = start.toNat + (amounts.map UInt64.toNat).sum := by
    induction amounts with
    | nil =>
      intro start total
      rw [List.foldlM_nil, pure_eq_ok_iff, List.map_nil, List.sum_nil, Nat.add_zero,
        UInt64.toNat_inj, eq_comm]
    | cons a rest ih =>
      intro start total
      simp only [List.foldlM_cons, bind_eq_ok_iff, ih, add_eq_ok_iff, List.map_cons,
        List.sum_cons]
      constructor
      · rintro ⟨middle, hmiddle, htotal⟩
        omega
      · intro htotal
        have hlt := total.toNat_lt
        refine ⟨UInt64.ofNat (start.toNat + a.toNat), Amount.toNat_ofNat (by omega), ?_⟩
        rw [Amount.toNat_ofNat (by omega)]
        omega
  refine (onlyOverflows_foldlM onlyOverflows_add amounts 0).eq (onlyOverflows_sum amounts)
    fun total => ?_
  rw [hfold, sum_eq_ok_iff, UInt64.toNat_zero, Nat.zero_add]

end Audit
end EpochVoting
