/-!
# Tables of keyed records

A table holds records that carry their own key, at most one for each key, and
lists them in the order of their keys.  A table is determined by what can be
looked up in it (`Table.ext`), so two ways of building the same content give
the same table.
-/

namespace EpochVoting

open Std

/-- A record type whose values carry the key they are filed under. -/
class Keyed (ρ : Type) (κ : outParam Type) where
  /-- The key a record is filed under. -/
  key : ρ → κ

/-- Pairs are ordered by their first component, then by their second. -/
instance pairOrd {α β : Type} [Ord α] [Ord β] : Ord (α × β) :=
  lexOrd

/-- Records in strictly increasing order of their keys. -/
structure Table (ρ : Type) {κ : Type} [Keyed ρ κ] [Ord κ] where
  /-- The records, in the order of their keys. -/
  records : List ρ
  ordered : records.Pairwise fun r s => compare (Keyed.key r) (Keyed.key s) = .lt

namespace Table

set_option linter.unusedSectionVars false

variable {ρ κ : Type} [Keyed ρ κ] [Ord κ]

instance [DecidableEq ρ] : DecidableEq (Table ρ) := fun a b =>
  decidable_of_iff (a.records = b.records)
    ⟨fun h => by cases a; cases b; cases h; rfl, fun h => h ▸ rfl⟩

/-- The table without records. -/
def empty : Table ρ where
  records := []
  ordered := List.Pairwise.nil

instance : Inhabited (Table ρ) := ⟨empty⟩

/-- The record filed under a key. -/
def find? (t : Table ρ) (k : κ) : Option ρ :=
  t.records.find? fun r => compare (Keyed.key r) k == .eq

/-- Whether a record is filed under the key. -/
def contains (t : Table ρ) (k : κ) : Bool :=
  (t.find? k).isSome

/-- The number of records. -/
def size (t : Table ρ) : Nat :=
  t.records.length

/-- The record placed into an ordered list, in place of one with the same key. -/
def place (r : ρ) : List ρ → List ρ
  | [] => [r]
  | s :: rest =>
    match compare (Keyed.key r) (Keyed.key s) with
    | .lt => r :: s :: rest
    | .eq => r :: rest
    | .gt => s :: place r rest

theorem mem_place {r x : ρ} {records : List ρ} (h : x ∈ place r records) :
    x = r ∨ x ∈ records := by
  induction records with
  | nil => simpa [place] using h
  | cons s rest ih =>
    unfold place at h
    split at h <;> simp only [List.mem_cons] at h ⊢ <;> grind

variable [TransOrd κ] [LawfulEqOrd κ]

theorem pairwise_place (r : ρ) {records : List ρ}
    (h : records.Pairwise fun r s => compare (Keyed.key r) (Keyed.key s) = .lt) :
    (place r records).Pairwise
      fun r s => compare (Keyed.key r) (Keyed.key s) = .lt := by
  induction records with
  | nil => simp [place]
  | cons s rest ih =>
    rw [List.pairwise_cons] at h
    unfold place
    split
    · next hlt =>
      refine List.pairwise_cons.mpr ⟨fun x hx => ?_, List.pairwise_cons.mpr h⟩
      rcases List.mem_cons.mp hx with rfl | hx
      · exact hlt
      · exact TransCmp.lt_trans hlt (h.1 x hx)
    · next heq =>
      refine List.pairwise_cons.mpr ⟨fun x hx => ?_, h.2⟩
      rw [LawfulEqOrd.eq_of_compare heq]
      exact h.1 x hx
    · next hgt =>
      refine List.pairwise_cons.mpr ⟨fun x hx => ?_, ih h.2⟩
      rcases mem_place hx with rfl | hx
      · exact OrientedCmp.lt_of_gt hgt
      · exact h.1 x hx

/-- The table with the record filed under its key. -/
def insert (t : Table ρ) (r : ρ) : Table ρ where
  records := place r t.records
  ordered := pairwise_place r t.ordered

/-- The table without the record of the given key. -/
def erase (t : Table ρ) (k : κ) : Table ρ where
  records := t.records.filter fun r => compare (Keyed.key r) k != .eq
  ordered := t.ordered.filter _

/-- The record of the given key and the table without it, if there is such a
record. -/
def take? (t : Table ρ) (k : κ) : Option (ρ × Table ρ) :=
  (t.find? k).map fun r => (r, t.erase k)

/-- The table of a list's records; of two with the same key the later one stays. -/
def ofList (records : List ρ) : Table ρ :=
  records.foldl insert empty

/-! ## Laws -/

theorem key_of_find? {t : Table ρ} {k : κ} {r : ρ} (h : t.find? k = some r) :
    Keyed.key r = k := by
  have := List.find?_some h
  exact LawfulEqOrd.eq_of_compare (by simpa using this)

theorem mem_of_find? {t : Table ρ} {k : κ} {r : ρ} (h : t.find? k = some r) :
    r ∈ t.records :=
  List.mem_of_find?_eq_some h

theorem find?_key_of_mem {t : Table ρ} {r : ρ} (h : r ∈ t.records) :
    t.find? (Keyed.key r) = some r := by
  obtain ⟨records, ordered⟩ := t
  unfold find?
  simp only at h ⊢
  induction records with
  | nil => cases h
  | cons s rest ih =>
    rw [List.pairwise_cons] at ordered
    rcases List.mem_cons.mp h with rfl | h
    · simp [ReflCmp.compare_self]
    · have hs := ordered.1 r h
      rw [List.find?_cons_of_neg (by simp [hs])]
      exact ih ordered.2 h

/-- Looking up a key finds the one record that carries it. -/
theorem find?_eq_some_iff {t : Table ρ} {k : κ} {r : ρ} :
    t.find? k = some r ↔ r ∈ t.records ∧ Keyed.key r = k :=
  ⟨fun h => ⟨mem_of_find? h, key_of_find? h⟩, fun h => h.2 ▸ find?_key_of_mem h.1⟩

theorem find?_eq_none_iff {t : Table ρ} {k : κ} :
    t.find? k = none ↔ ∀ r ∈ t.records, Keyed.key r ≠ k := by
  constructor
  · intro h r hr hk
    rw [← hk, find?_key_of_mem hr] at h
    cases h
  · intro h
    cases hf : t.find? k with
    | none => rfl
    | some r => exact absurd (key_of_find? hf) (h r (mem_of_find? hf))

@[simp] theorem find?_empty (k : κ) : (empty : Table ρ).find? k = none :=
  rfl

/-- An inserted record is found under its key, and under no other key does the
table change. -/
theorem find?_insert (t : Table ρ) (r : ρ) (k : κ) :
    (t.insert r).find? k =
      if compare (Keyed.key r) k = .eq then some r else t.find? k := by
  obtain ⟨records, ordered⟩ := t
  unfold insert find?
  simp only
  induction records with
  | nil =>
    unfold place
    split <;> simp_all
  | cons s rest ih =>
    rw [List.pairwise_cons] at ordered
    have ih := ih ordered.2
    unfold place
    split
    · by_cases h : compare (Keyed.key r) k = .eq <;> simp [h]
    · next heq =>
      have hkey := LawfulEqOrd.eq_of_compare heq
      by_cases h : compare (Keyed.key r) k = .eq
      · simp [h]
      · simp [h, ← hkey]
    · next hgt =>
      by_cases h : compare (Keyed.key s) k = .eq
      · have hkey := LawfulEqOrd.eq_of_compare h
        have hne : compare (Keyed.key r) k ≠ .eq := by
          rw [← hkey, hgt]
          decide
        simp [h, hne]
      · simp [h, ih]

/-- An erased key finds nothing, and under no other key does the table change. -/
theorem find?_erase (t : Table ρ) (j k : κ) :
    (t.erase j).find? k = if compare j k = .eq then none else t.find? k := by
  obtain ⟨records, ordered⟩ := t
  unfold erase find?
  simp only
  induction records with
  | nil => simp
  | cons s rest ih =>
    have ih := ih (List.pairwise_cons.mp ordered).2
    by_cases hs : compare (Keyed.key s) j = .eq
    · have hkey := LawfulEqOrd.eq_of_compare hs
      rw [List.filter_cons_of_neg (by simp [hs]), ih]
      by_cases h : compare j k = .eq
      · simp [h]
      · simp [h, hkey]
    · rw [List.filter_cons_of_pos (by simpa using hs)]
      by_cases h : compare (Keyed.key s) k = .eq
      · have hkey := LawfulEqOrd.eq_of_compare h
        have hne : compare j k ≠ .eq := by
          rw [← hkey]
          exact fun hj => hs (OrientedCmp.eq_symm hj)
        simp [h, hne]
      · simp [h, ih]

@[simp] theorem find?_insert_self (t : Table ρ) (r : ρ) :
    (t.insert r).find? (Keyed.key r) = some r := by
  simp [find?_insert, ReflCmp.compare_self]

theorem find?_insert_of_ne {t : Table ρ} {r : ρ} {k : κ} (h : Keyed.key r ≠ k) :
    (t.insert r).find? k = t.find? k := by
  rw [find?_insert, if_neg fun hk => h (LawfulEqOrd.eq_of_compare hk)]

@[simp] theorem find?_erase_self (t : Table ρ) (k : κ) : (t.erase k).find? k = none := by
  simp [find?_erase, ReflCmp.compare_self]

theorem find?_erase_of_ne {t : Table ρ} {j k : κ} (h : j ≠ k) :
    (t.erase j).find? k = t.find? k := by
  rw [find?_erase, if_neg fun hk => h (LawfulEqOrd.eq_of_compare hk)]

/-- What has been found can be taken out. -/
theorem take?_of_find? {t : Table ρ} {k : κ} {r : ρ} (h : t.find? k = some r) :
    t.take? k = some (r, t.erase k) := by
  rw [take?, h, Option.map_some]

theorem contains_iff {t : Table ρ} {k : κ} :
    t.contains k = true ↔ ∃ r, t.find? k = some r :=
  Option.isSome_iff_exists

/-- Two tables with the same records have them in the same order. -/
theorem ext_mem {a b : Table ρ} (h : ∀ r, r ∈ a.records ↔ r ∈ b.records) : a = b := by
  obtain ⟨as, ha⟩ := a
  obtain ⟨bs, hb⟩ := b
  simp only at h
  congr
  induction as generalizing bs with
  | nil =>
    cases bs with
    | nil => rfl
    | cons y _ => exact absurd ((h y).mpr (List.mem_cons_self ..)) (List.not_mem_nil)
  | cons x as ih =>
    rw [List.pairwise_cons] at ha
    cases bs with
    | nil => exact absurd ((h x).mp (List.mem_cons_self ..)) (List.not_mem_nil)
    | cons y bs =>
      rw [List.pairwise_cons] at hb
      have hirrefl : ∀ r : ρ, compare (Keyed.key r) (Keyed.key r) ≠ .lt := fun _ => by
        simp [ReflCmp.compare_self]
      have hxy : x = y := by
        rcases List.mem_cons.mp ((h x).mp (List.mem_cons_self ..)) with hx | hx
        · exact hx
        · rcases List.mem_cons.mp ((h y).mpr (List.mem_cons_self ..)) with hy | hy
          · exact hy.symm
          · exact absurd (TransCmp.lt_trans (ha.1 y hy) (hb.1 x hx)) (hirrefl x)
      subst hxy
      congr 1
      refine ih ha.2 bs hb.2 fun _ => ⟨fun hr => ?_, fun hr => ?_⟩
      · rcases List.mem_cons.mp ((h _).mp (List.mem_cons_of_mem _ hr)) with rfl | hr'
        · exact absurd (ha.1 _ hr) (hirrefl _)
        · exact hr'
      · rcases List.mem_cons.mp ((h _).mpr (List.mem_cons_of_mem _ hr)) with rfl | hr'
        · exact absurd (hb.1 _ hr) (hirrefl _)
        · exact hr'

/-- A table is determined by what can be looked up in it. -/
theorem ext {a b : Table ρ} (h : ∀ k, a.find? k = b.find? k) : a = b :=
  ext_mem fun _ =>
    ⟨fun hr => mem_of_find? ((h _).symm.trans (find?_key_of_mem hr)),
      fun hr => mem_of_find? ((h _).trans (find?_key_of_mem hr))⟩

end Table
end EpochVoting
