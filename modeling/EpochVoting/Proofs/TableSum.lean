import EpochVoting.Table
import Mathlib.Algebra.BigOperators.Group.List.Basic
import Mathlib.Algebra.Order.BigOperators.Group.List
import Mathlib.Algebra.Order.Ring.Nat

/-!
# Sums over tables

The invariants of the engine compare stored totals with sums over single records.
`Table.total` is such a sum.  This file says how it moves when a record is inserted
or erased, and when the sum over one table is bounded by the sum over another: if
every record that counts has a partner under a key of its own.
-/

namespace EpochVoting
namespace Table

open Std

set_option linter.unusedSectionVars false

section

variable {ρ κ : Type} [Keyed ρ κ] [Ord κ]

/-- The sum of a number over all records. -/
def total (t : Table ρ) (f : ρ → Nat) : Nat :=
  (t.records.map f).sum

theorem total_congr {t : Table ρ} {f g : ρ → Nat} (h : ∀ r ∈ t.records, f r = g r) :
    t.total f = t.total g := by
  unfold total
  rw [List.map_congr_left h]

theorem total_mono {t : Table ρ} {f g : ρ → Nat} (h : ∀ r ∈ t.records, f r ≤ g r) :
    t.total f ≤ t.total g :=
  List.sum_le_sum h

theorem total_add (t : Table ρ) (f g : ρ → Nat) :
    t.total (fun r => f r + g r) = t.total f + t.total g :=
  List.sum_map_add

theorem total_eq_zero_iff {t : Table ρ} {f : ρ → Nat} :
    t.total f = 0 ↔ ∀ r ∈ t.records, f r = 0 := by
  unfold total
  rw [List.sum_eq_zero_iff]
  simp only [List.mem_map, forall_exists_index, and_imp, forall_apply_eq_imp_iff₂]

theorem exists_of_total_ne_zero {t : Table ρ} {f : ρ → Nat} (h : t.total f ≠ 0) :
    ∃ r ∈ t.records, f r ≠ 0 := by
  by_contra hnone
  refine h (total_eq_zero_iff.mpr fun r hr => ?_)
  by_contra hcounts
  exact hnone ⟨r, hr, hcounts⟩

/-- A sum is below a bound if it is so whenever some record contributes to it. -/
theorem total_lt {t : Table ρ} {f : ρ → Nat} {bound : Nat} [NeZero bound]
    (h : ∀ r ∈ t.records, f r ≠ 0 → t.total f < bound) : t.total f < bound := by
  by_cases hzero : t.total f = 0
  · rw [hzero]
    exact Nat.pos_of_neZero bound
  · obtain ⟨r, hr, hcounts⟩ := exists_of_total_ne_zero hzero
    exact h r hr hcounts

theorem le_total_of_mem {t : Table ρ} {f : ρ → Nat} {r : ρ} (h : r ∈ t.records) :
    f r ≤ t.total f :=
  List.single_le_sum (fun _ _ => Nat.zero_le _) _ (List.mem_map_of_mem h)

/-- A sum to which only one member of a list contributes. -/
theorem sum_single {β : Type} [DecidableEq β] {l : List β} (hnodup : l.Nodup) {b : β}
    (hb : b ∈ l) (n : Nat) : (l.map fun c => if b = c then n else 0).sum = n := by
  induction l with
  | nil => cases hb
  | cons c rest ih =>
    obtain ⟨hnot, hrest⟩ := List.nodup_cons.mp hnodup
    rw [List.map_cons, List.sum_cons]
    by_cases hbc : b = c
    · -- The list has no duplicates, so nobody else contributes.
      have hzero : (rest.map fun d => if b = d then n else 0).sum = 0 := by
        rw [List.sum_eq_zero_iff]
        intro m hm
        obtain ⟨d, hd, rfl⟩ := List.mem_map.mp hm
        refine if_neg fun hbd : b = d => hnot ?_
        rw [← hbc, hbd]
        exact hd
      rw [if_pos hbc, hzero, Nat.add_zero]
    · rw [if_neg hbc, Nat.zero_add]
      exact ih hrest ((List.mem_cons.mp hb).resolve_left hbc)

/-- A sum taken part by part, if every record that counts falls into one of the parts. -/
theorem total_by {β : Type} [DecidableEq β] (t : Table ρ) (f : ρ → Nat) (part : ρ → β)
    {l : List β} (hnodup : l.Nodup) (hparts : ∀ r ∈ t.records, f r ≠ 0 → part r ∈ l) :
    t.total f = (l.map fun b => t.total fun r => if part r = b then f r else 0).sum := by
  unfold total
  revert hparts
  induction t.records with
  | nil => simp
  | cons r rest ih =>
    intro hparts
    have hr : f r = (l.map fun b => if part r = b then f r else 0).sum := by
      by_cases hzero : f r = 0
      · simp [hzero]
      · exact (sum_single hnodup (hparts r List.mem_cons_self hzero) (f r)).symm
    have hrest := ih fun s hs => hparts s (List.mem_cons_of_mem r hs)
    simp only [List.map_cons, List.sum_cons, List.sum_map_add]
    rw [← hr, ← hrest]

/-- A sum over the records that satisfy a condition. -/
theorem sum_filter (t : Table ρ) (p : ρ → Bool) (f : ρ → Nat) :
    ((t.records.filter p).map f).sum = t.total fun r => if p r then f r else 0 := by
  unfold total
  induction t.records with
  | nil => rfl
  | cons r rest ih =>
    by_cases hp : p r
    · simp [hp, ih]
    · simp [hp, ih]

end

variable {ρ κ : Type} [Keyed ρ κ] [Ord κ] [TransOrd κ] [LawfulEqOrd κ]

/-! ## Records after an insertion and after an erasure -/

theorem mem_erase_iff {t : Table ρ} {k : κ} {r : ρ} :
    r ∈ (t.erase k).records ↔ r ∈ t.records ∧ Keyed.key r ≠ k := by
  have hcmp : compare (Keyed.key r) k = .eq ↔ Keyed.key r = k :=
    ⟨LawfulEqOrd.eq_of_compare, fun h => h ▸ ReflCmp.compare_self⟩
  simp [erase, hcmp]

theorem mem_insert_iff {t : Table ρ} {r s : ρ} :
    s ∈ (t.insert r).records ↔
      s = r ∨ s ∈ t.records ∧ Keyed.key s ≠ Keyed.key r := by
  by_cases hkey : Keyed.key s = Keyed.key r
  · have hfound : (t.insert r).find? (Keyed.key s) = some r := by
      rw [hkey]
      exact find?_insert_self t r
    constructor
    · intro hs
      have := find?_key_of_mem hs
      rw [hfound] at this
      exact Or.inl (Option.some.inj this).symm
    · rintro (rfl | ⟨-, hne⟩)
      · exact mem_of_find? (find?_insert_self t s)
      · exact absurd hkey hne
  · have hfind : (t.insert r).find? (Keyed.key s) = t.find? (Keyed.key s) :=
      find?_insert_of_ne (Ne.symm hkey)
    have hmem (u : Table ρ) : s ∈ u.records ↔ u.find? (Keyed.key s) = some s :=
      ⟨find?_key_of_mem, mem_of_find?⟩
    rw [hmem, hfind, ← hmem]
    constructor
    · exact fun hs => Or.inr ⟨hs, hkey⟩
    · rintro (rfl | ⟨hs, -⟩)
      · exact absurd rfl hkey
      · exact hs

theorem find?_insert_ite [DecidableEq κ] (t : Table ρ) (r : ρ) (k : κ) :
    (t.insert r).find? k = if Keyed.key r = k then some r else t.find? k := by
  by_cases h : Keyed.key r = k
  · subst h
    rw [if_pos rfl]
    exact find?_insert_self t r
  · rw [if_neg h]
    exact find?_insert_of_ne h

/-- A number that is read off the record under a key moves by what moved on that
record. -/
theorem elim_insert_of_some [DecidableEq κ] {t : Table ρ} {r old : ρ} (f : ρ → Nat)
    (h : t.find? (Keyed.key r) = some old) (k : κ) :
    ((t.insert r).find? k).elim 0 f + (if Keyed.key r = k then f old else 0) =
      (t.find? k).elim 0 f + if Keyed.key r = k then f r else 0 := by
  rw [find?_insert_ite]
  by_cases hkey : Keyed.key r = k
  · subst hkey
    rw [if_pos rfl, if_pos rfl, if_pos rfl, h]
    exact Nat.add_comm ..
  · rw [if_neg hkey, if_neg hkey, if_neg hkey]

theorem find?_erase_ite [DecidableEq κ] (t : Table ρ) (j k : κ) :
    (t.erase j).find? k = if j = k then none else t.find? k := by
  by_cases h : j = k
  · subst h
    rw [if_pos rfl]
    exact find?_erase_self t j
  · rw [if_neg h]
    exact find?_erase_of_ne h

/-- What holds of all records and of a new one holds after its insertion. -/
theorem forall_insert {t : Table ρ} {r : ρ} {P : ρ → Prop} (hr : P r)
    (ht : ∀ s ∈ t.records, P s) : ∀ s ∈ (t.insert r).records, P s := by
  intro s hs
  rcases mem_insert_iff.mp hs with rfl | ⟨hs, -⟩
  · exact hr
  · exact ht s hs

theorem forall_erase {t : Table ρ} {k : κ} {P : ρ → Prop} (ht : ∀ s ∈ t.records, P s) :
    ∀ s ∈ (t.erase k).records, P s :=
  fun s hs => ht s (mem_erase_iff.mp hs).1

theorem nodup_records (t : Table ρ) : t.records.Nodup := by
  refine t.ordered.imp fun {r s} hlt heq => ?_
  subst heq
  have hself : compare (Keyed.key r) (Keyed.key r) = .eq := ReflCmp.compare_self
  rw [hself] at hlt
  cases hlt

theorem eq_of_key_eq {t : Table ρ} {r s : ρ} (hr : r ∈ t.records) (hs : s ∈ t.records)
    (h : Keyed.key r = Keyed.key s) : r = s := by
  have hfound := find?_key_of_mem hr
  rw [h, find?_key_of_mem hs] at hfound
  exact (Option.some.inj hfound).symm

theorem erase_records_perm {t : Table ρ} {r : ρ} (h : r ∈ t.records) :
    t.records.Perm (r :: (t.erase (Keyed.key r)).records) := by
  have hnot : r ∉ (t.erase (Keyed.key r)).records := fun hr =>
    (mem_erase_iff.mp hr).2 rfl
  refine (List.perm_ext_iff_of_nodup t.nodup_records
    (List.nodup_cons.mpr ⟨hnot, nodup_records _⟩)).mpr fun s => ?_
  rw [List.mem_cons, mem_erase_iff]
  constructor
  · intro hs
    by_cases hkey : Keyed.key s = Keyed.key r
    · exact Or.inl (eq_of_key_eq hs h hkey)
    · exact Or.inr ⟨hs, hkey⟩
  · rintro (rfl | ⟨hs, -⟩)
    · exact h
    · exact hs

/-! ## How a sum moves -/

/-- A sum is the sum without the record of a key and that record's own number. -/
theorem total_erase (t : Table ρ) (k : κ) (f : ρ → Nat) :
    (t.erase k).total f + (t.find? k).elim 0 f = t.total f := by
  cases hk : t.find? k with
  | none =>
    have hsame : t.erase k = t := ext_mem fun r => by
      rw [mem_erase_iff]
      exact ⟨And.left, fun hr => ⟨hr, find?_eq_none_iff.mp hk r hr⟩⟩
    rw [hsame]
    rfl
  | some r =>
    obtain ⟨hr, rfl⟩ := find?_eq_some_iff.mp hk
    have hsum := ((erase_records_perm hr).map f).sum_eq
    rw [List.map_cons, List.sum_cons] at hsum
    change (t.erase (Keyed.key r)).total f + f r = t.total f
    unfold total
    omega

/-- An insertion adds the number of the new record and takes off that of the one it
replaces. -/
theorem total_insert (t : Table ρ) (r : ρ) (f : ρ → Nat) :
    (t.insert r).total f + (t.find? (Keyed.key r)).elim 0 f = t.total f + f r := by
  have hsame : (t.insert r).erase (Keyed.key r) = t.erase (Keyed.key r) :=
    ext_mem fun s => by
      rw [mem_erase_iff, mem_erase_iff, mem_insert_iff]
      constructor
      · rintro ⟨rfl | ⟨hs, -⟩, hne⟩
        · exact absurd rfl hne
        · exact ⟨hs, hne⟩
      · exact fun ⟨hs, hne⟩ => ⟨Or.inr ⟨hs, hne⟩, hne⟩
  have hnew := total_erase (t.insert r) (Keyed.key r) f
  have hold := total_erase t (Keyed.key r) f
  rw [hsame, find?_insert_self] at hnew
  change _ + f r = _ at hnew
  omega

theorem total_insert_of_none {t : Table ρ} {r : ρ} (f : ρ → Nat)
    (h : t.find? (Keyed.key r) = none) : (t.insert r).total f = t.total f + f r := by
  have hsum := total_insert t r f
  rw [h] at hsum
  exact hsum

theorem total_insert_of_some {t : Table ρ} {r s : ρ} (f : ρ → Nat)
    (h : t.find? (Keyed.key r) = some s) :
    (t.insert r).total f + f s = t.total f + f r := by
  have hsum := total_insert t r f
  rw [h] at hsum
  exact hsum

/-- Replacing a record by one with the same number leaves the sum as it is. -/
theorem total_insert_same {t : Table ρ} {r s : ρ} {f : ρ → Nat}
    (h : t.find? (Keyed.key r) = some s) (hf : f r = f s) :
    (t.insert r).total f = t.total f := by
  have hsum := total_insert_of_some f h
  omega

theorem total_erase_of_some {t : Table ρ} {k : κ} {r : ρ} (f : ρ → Nat)
    (h : t.find? k = some r) : (t.erase k).total f + f r = t.total f := by
  have hsum := total_erase t k f
  rw [h] at hsum
  exact hsum

/-- A sum to which only the record of one key contributes. -/
theorem total_at [DecidableEq κ] (t : Table ρ) (k : κ) (f : ρ → Nat) :
    (t.total fun r => if Keyed.key r = k then f r else 0) = (t.find? k).elim 0 f := by
  cases hk : t.find? k with
  | none => exact total_eq_zero_iff.mpr fun r hr => if_neg (find?_eq_none_iff.mp hk r hr)
  | some r =>
    have hsum := total_erase_of_some (fun r => if Keyed.key r = k then f r else 0) hk
    have hrest : ((t.erase k).total fun r => if Keyed.key r = k then f r else 0) = 0 :=
      total_eq_zero_iff.mpr fun s hs => if_neg (mem_erase_iff.mp hs).2
    rw [hrest, if_pos (key_of_find? hk), Nat.zero_add] at hsum
    exact hsum.symm

theorem total_single [DecidableEq κ] (t : Table ρ) (k : κ) (n : Nat) :
    (t.total fun r => if Keyed.key r = k then n else 0) = (t.find? k).elim 0 fun _ => n :=
  t.total_at k fun _ => n

/-! ## Sums over two tables -/

section

variable {σ κ' : Type} [Keyed σ κ'] [Ord κ'] [TransOrd κ'] [LawfulEqOrd κ']

/-- The order in which two tables are summed up does not matter. -/
theorem total_comm (t : Table ρ) (u : Table σ) (f : ρ → σ → Nat) :
    (t.total fun r => u.total (f r)) = u.total fun s => t.total fun r => f r s := by
  unfold total
  induction t.records with
  | nil => simp
  | cons r rest ih =>
    simp only [List.map_cons, List.sum_cons, ih]
    exact List.sum_map_add.symm

/-- A sum over one table, taken along the records of another one in which every record
that counts has a partner. -/
theorem total_partners [DecidableEq κ] {t : Table ρ} {u : Table σ} (partner : σ → κ)
    {f : σ → Nat} (hpartner : ∀ s ∈ u.records, f s ≠ 0 → ∃ r, t.find? (partner s) = some r) :
    (t.total fun r => u.total fun s => if Keyed.key r = partner s then f s else 0) =
      u.total f := by
  rw [total_comm]
  refine total_congr fun s hs => ?_
  rw [total_single]
  by_cases hzero : f s = 0
  · cases t.find? (partner s) <;> simp [hzero]
  · obtain ⟨r, hr⟩ := hpartner s hs hzero
    simp [hr]

/-- If every member that counts has a partner under a key of its own, and counts no
more than it, then the members together count no more than the table. -/
theorem sum_le_total {α : Type} {l : List α} (hnodup : l.Nodup) {f : α → Nat}
    {u : Table σ} {g : σ → Nat} (partner : α → κ')
    (hinj : ∀ a ∈ l, ∀ b ∈ l, f a ≠ 0 → f b ≠ 0 → partner a = partner b → a = b)
    (hle : ∀ a ∈ l, f a ≤ (u.find? (partner a)).elim 0 g) :
    (l.map f).sum ≤ u.total g := by
  induction l generalizing u with
  | nil => exact Nat.zero_le _
  | cons a rest ih =>
    obtain ⟨hnot, hrest⟩ := List.nodup_cons.mp hnodup
    have hinj' : ∀ b ∈ rest, ∀ c ∈ rest, f b ≠ 0 → f c ≠ 0 → partner b = partner c → b = c :=
      fun b hb c hc => hinj b (List.mem_cons_of_mem a hb) c (List.mem_cons_of_mem a hc)
    rw [List.map_cons, List.sum_cons]
    by_cases hzero : f a = 0
    · have := ih hrest hinj' fun b hb => hle b (List.mem_cons_of_mem a hb)
      omega
    · -- The partner of `a` is spent, so the rest is compared with the other records.
      have hsum := ih (u := u.erase (partner a)) hrest hinj' fun b hb => by
        by_cases hb0 : f b = 0
        · omega
        · have hne : partner a ≠ partner b := fun heq => hnot <| by
            have := hinj a List.mem_cons_self b (List.mem_cons_of_mem a hb) hzero hb0 heq
            rwa [this]
          rw [find?_erase_of_ne hne]
          exact hle b (List.mem_cons_of_mem a hb)
      have htotal := total_erase u (partner a) g
      have ha := hle a List.mem_cons_self
      omega

theorem total_le_total {t : Table ρ} {f : ρ → Nat} {u : Table σ} {g : σ → Nat}
    (partner : ρ → κ')
    (hinj : ∀ r ∈ t.records, ∀ s ∈ t.records, f r ≠ 0 → f s ≠ 0 →
      partner r = partner s → r = s)
    (hle : ∀ r ∈ t.records, f r ≤ (u.find? (partner r)).elim 0 g) :
    t.total f ≤ u.total g :=
  sum_le_total t.nodup_records partner hinj hle

end

/-! ## Rounded shares -/

/-- Parts of a value in proportion to numbers, each rounded down, add up to no more
than the value if the numbers add up to no more than the denominator. -/
theorem sum_div_le {α : Type} (l : List α) (part : α → Nat) (value whole : Nat)
    (h : (l.map part).sum ≤ whole) :
    (l.map fun a => value * part a / whole).sum ≤ value := by
  rcases Nat.eq_zero_or_pos whole with rfl | hpos
  · have hzero : (l.map fun a => value * part a / 0).sum = 0 := by
      rw [List.sum_eq_zero_iff]
      simp
    omega
  · have hscaled : (l.map fun a => value * part a / whole).sum * whole ≤
        value * (l.map part).sum := by
      clear h
      induction l with
      | nil => simp
      | cons a rest ih =>
        have hfirst := Nat.div_mul_le_self (value * part a) whole
        simp only [List.map_cons, List.sum_cons, Nat.add_mul, Nat.mul_add]
        omega
    have hbound : value * (l.map part).sum ≤ value * whole := Nat.mul_le_mul_left value h
    exact Nat.le_of_mul_le_mul_right (hscaled.trans hbound) hpos

/-- Each part loses less than one to rounding: parts of a value whose numbers add up to the
denominator fall short of the value by less than there are parts. -/
theorem le_sum_div_add {α : Type} (l : List α) (part : α → Nat) (value whole : Nat)
    (hpos : 0 < whole) (h : (l.map part).sum = whole) :
    value ≤ (l.map fun a => value * part a / whole).sum + (l.length - 1) := by
  have hlength : 0 < l.length := by
    cases l with
    | nil => exact absurd h (Nat.ne_of_lt hpos)
    | cons => exact Nat.succ_pos _
  have hscaled : value * (l.map part).sum + l.length ≤
      ((l.map fun a => value * part a / whole).sum + l.length) * whole := by
    clear h hlength
    induction l with
    | nil => simp
    | cons a rest ih =>
      have hdivided := Nat.div_add_mod' (value * part a) whole
      have hremainder := Nat.mod_lt (value * part a) hpos
      simp only [List.map_cons, List.sum_cons, List.length_cons, Nat.add_mul, Nat.mul_add] at ih ⊢
      omega
  rw [h] at hscaled
  have hlt : value * whole <
      ((l.map fun a => value * part a / whole).sum + l.length) * whole := by
    omega
  have hshort := Nat.lt_of_mul_lt_mul_right hlt
  omega

end Table
end EpochVoting
