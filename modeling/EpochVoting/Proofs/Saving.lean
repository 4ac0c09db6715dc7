import EpochVoting.Proofs.Calls
import EpochVoting.Proofs.Codecs
import Mathlib.Data.List.Nodup

/-!
# Saving and loading

What a store held before is gone after an engine was saved to it: its rows are the rows
of the engine, each under a key of its own, and its only new setting is the factory
record.  Loading reads every kind of record back into its table, so the loaded engine is
the saved one (`Engine.load_save`).  The one condition is that the tables nested in the
snapshots are small enough for their sizes to be written (`Commitments.Countable`).
-/

namespace EpochVoting

open Std

/-! ## Stores -/

namespace Store

variable {s : Store} {kind : RecordKind} {row : Row}

theorem mem_rowsOf_iff : row ∈ s.rowsOf kind ↔ row ∈ s.rows.records ∧ row.kind = kind := by
  unfold rowsOf
  rw [List.mem_filter, beq_iff_eq]

theorem mem_clear_iff :
    row ∈ (s.clear kind).rows.records ↔ row ∈ s.rows.records ∧ row.kind ≠ kind := by
  have hmem : row ∈ s.rows.records.filter (fun r => r.kind != kind) ↔
      row ∈ s.rows.records ∧ row.kind ≠ kind := by
    rw [List.mem_filter, bne_iff_ne]
  refine Iff.trans (Table.mem_ofList_iff fun a ha b hb hkey => ?_) hmem
  exact Table.eq_of_key_eq (List.mem_filter.mp ha).1 (List.mem_filter.mp hb).1 hkey

theorem mem_foldl_clear_iff (kinds : List RecordKind) :
    row ∈ (kinds.foldl clear s).rows.records ↔
      row ∈ s.rows.records ∧ row.kind ∉ kinds := by
  induction kinds generalizing s with
  | nil => simp
  | cons kind rest ih =>
    rw [List.foldl_cons, ih, mem_clear_iff, List.mem_cons, not_or, and_assoc]

/-- No record is left when all kinds have been cleared. -/
theorem rows_clear_all : (RecordKind.all.foldl clear s).rows = Table.empty := by
  refine Table.ext_mem fun row => ?_
  rw [mem_foldl_clear_iff]
  constructor
  · rintro ⟨-, hkind⟩
    exact absurd (by cases row.kind <;> decide) hkind
  · intro h
    cases h

theorem settings_foldl_clear (kinds : List RecordKind) :
    (kinds.foldl clear s).settings = s.settings := by
  induction kinds generalizing s with
  | nil => rfl
  | cons kind rest ih => exact ih

@[simp] theorem rows_putSetting (name value : Bytes) :
    (s.putSetting name value).rows = s.rows :=
  rfl

theorem foldl_put (rows : List Row) :
    rows.foldl (fun s row => s.put row.kind row.rowKey row.value) s =
      { s with rows := rows.foldl Table.insert s.rows } := by
  induction rows generalizing s with
  | nil => rfl
  | cons row rest ih => exact ih

end Store

/-! ## Layouts -/

namespace Layout

variable {ρ κ : Type} [Keyed ρ κ] [Ord κ] {l : Layout ρ κ} {t : Table ρ}

/-- The row of a record. -/
def row (l : Layout ρ κ) (r : ρ) : Row :=
  ⟨l.kind, l.keyCodec.write (Keyed.key r), l.codec.write r⟩

theorem mem_rows_iff {row : Row} : row ∈ l.rows t ↔ ∃ r ∈ t.records, l.row r = row :=
  List.mem_map

/-- The rows of a layout are all of its kind. -/
theorem filter_rows (kind : RecordKind) :
    (l.rows t).filter (fun row => row.kind == kind) =
      if l.kind = kind then l.rows t else [] := by
  have hkind : ∀ row ∈ l.rows t, row.kind = l.kind := by
    intro row hrow
    obtain ⟨r, -, rfl⟩ := mem_rows_iff.mp hrow
    rfl
  split
  · next h =>
    exact List.filter_eq_self.mpr fun row hrow => beq_iff_eq.mpr ((hkind row hrow).trans h)
  · next h =>
    refine List.filter_eq_nil_iff.mpr fun row hrow hsame => h ?_
    exact (hkind row hrow).symm.trans (beq_iff_eq.mp hsame)

/-- Rows of a table are the rows of some of its records. -/
theorem exists_records {rows : List Row} (h : ∀ row ∈ rows, row ∈ l.rows t) :
    ∃ rs : List ρ, rs.map l.row = rows ∧ ∀ r ∈ rs, r ∈ t.records := by
  induction rows with
  | nil => exact ⟨[], rfl, fun _ hr => by cases hr⟩
  | cons row rest ih =>
    obtain ⟨r, hr, hrow⟩ := mem_rows_iff.mp (h row List.mem_cons_self)
    obtain ⟨rs, hrest, hrs⟩ := ih fun other hother => h other (List.mem_cons_of_mem row hother)
    exact ⟨r :: rs, by rw [List.map_cons, hrow, hrest], List.forall_mem_cons.mpr ⟨hr, hrs⟩⟩

omit [Ord κ] in
/-- Records that are read back are decoded from their rows. -/
theorem mapM_decode {rs : List ρ} (h : ∀ r ∈ rs, l.codec.Reads r) :
    (rs.map l.row).mapM (fun row =>
      (l.codec.decode row.value).mapError VotingError.serialization) = .ok rs := by
  induction rs with
  | nil => rfl
  | cons r rest ih =>
    have hr : l.codec.decode (l.row r).value = .ok r := (h r List.mem_cons_self).decode_write
    have hrest := ih fun s hs => h s (List.mem_cons_of_mem r hs)
    rw [List.map_cons, List.mapM_cons, hr, hrest]
    rfl

variable [TransOrd κ] [LawfulEqOrd κ]

/-- Different records have different keys, also when the keys are written. -/
theorem nodup_rowKeys (hkeys : ∀ k, l.keyCodec.Reads k) :
    ((l.rows t).map Row.rowKey).Nodup := by
  unfold rows
  rw [List.map_map]
  refine List.Nodup.map_on (fun r hr s hs hwritten => ?_) t.nodup_records
  exact Table.eq_of_key_eq hr hs ((hkeys _).eq_of_write_eq (hkeys _) hwritten)

/-- A table is loaded from a store that holds its rows and no other rows of the kind. -/
theorem load_eq_ok {s : Store} (hreads : ∀ r ∈ t.records, l.codec.Reads r)
    (hrows : ∀ row, row ∈ s.rowsOf l.kind ↔ row ∈ l.rows t) : l.load s = .ok t := by
  obtain ⟨found, hlist, hin⟩ := exists_records fun row hrow => (hrows row).mp hrow
  have hall : ∀ r, r ∈ found ↔ r ∈ t.records := by
    refine fun r => ⟨hin r, fun hr => ?_⟩
    -- The row of the record is in the store, and only this record is decoded from it.
    have hrow : l.row r ∈ s.rowsOf l.kind := (hrows _).mpr (mem_rows_iff.mpr ⟨r, hr, rfl⟩)
    rw [← hlist] at hrow
    obtain ⟨r', hr', hsame⟩ := List.mem_map.mp hrow
    have hvalue : l.codec.write r' = l.codec.write r := congrArg Row.value hsame
    rw [← (hreads r' (hin r' hr')).eq_of_write_eq (hreads r hr) hvalue]
    exact hr'
  unfold load
  rw [← hlist, mapM_decode fun r hr => hreads r (hin r hr)]
  show Except.ok (Table.ofList (found)) = _
  rw [Table.ofList_eq hall]

end Layout

/-- The tables nested in the snapshots are small enough for their sizes to be written. -/
def Commitments.Countable (c : Commitments) : Prop :=
  ∀ s ∈ c.snapshots.records,
    s.feeClaims.size < UInt64.size ∧ s.closedAllocations.size < UInt64.size

/-! ## Engines -/

namespace Engine

variable {e : Engine} {s : Store}

/-- The rows of a kind. -/
def rowsOf (e : Engine) : RecordKind → List Row
  | .gauges => Layout.gauges.rows e.registry.gauges
  | .voterBooks => Layout.voterBooks.rows e.weights.books
  | .gaugeWeights => Layout.gaugeWeights.rows e.weights.weights
  | .epochGauges => Layout.epochGauges.rows e.commitments.epochGauges
  | .epochVoters => Layout.snapshots.rows e.commitments.snapshots
  | .epochVotes => Layout.votes.rows e.commitments.votes
  | .bribes => Layout.bribes.rows e.bribes.bribes
  | .bribeClaims => Layout.bribeClaims.rows e.bribes.claims
  | .bribeClawbacks => Layout.bribeClawbacks.rows e.bribes.clawbacks

theorem filter_rows (kind : RecordKind) :
    e.rows.filter (fun row => row.kind == kind) = e.rowsOf kind := by
  unfold rows
  simp only [List.filter_append, Layout.filter_rows]
  cases kind <;> simp [rowsOf, Layout.gauges, Layout.voterBooks, Layout.gaugeWeights,
    Layout.epochGauges, Layout.snapshots, Layout.votes, Layout.bribes, Layout.bribeClaims,
    Layout.bribeClawbacks]

theorem mem_rowsOf_iff {kind : RecordKind} {row : Row} :
    row ∈ e.rowsOf kind ↔ row ∈ e.rows ∧ row.kind = kind := by
  rw [← filter_rows, List.mem_filter, beq_iff_eq]

/-- No two rows of a kind share a key. -/
theorem nodup_rowKeys (kind : RecordKind) : ((e.rowsOf kind).map Row.rowKey).Nodup := by
  have hepoch (k : Address × Epoch) : (Codec.address.pair .word32).Reads k :=
    (Codec.reads_address _).pair (Codec.reads_word32 _)
  have hbribe (k : UInt64 × Epoch) : (Codec.word64.pair .word32).Reads k :=
    (Codec.reads_word64 _).pair (Codec.reads_word32 _)
  cases kind with
  | gauges | voterBooks => exact Layout.nodup_rowKeys Codec.reads_address
  | gaugeWeights =>
    exact Layout.nodup_rowKeys fun _ => (Codec.reads_address _).pair (Codec.reads_address _)
  | epochGauges | epochVoters => exact Layout.nodup_rowKeys hepoch
  | epochVotes => exact Layout.nodup_rowKeys fun _ => (Codec.reads_address _).pair (hepoch _)
  | bribes => exact Layout.nodup_rowKeys Codec.reads_word64
  | bribeClaims => exact Layout.nodup_rowKeys fun _ => (Codec.reads_address _).pair (hbribe _)
  | bribeClawbacks => exact Layout.nodup_rowKeys hbribe

/-- No two rows of an engine share a key. -/
theorem rows_distinct {a b : Row} (ha : a ∈ e.rows) (hb : b ∈ e.rows)
    (h : Keyed.key a = Keyed.key b) : a = b := by
  obtain ⟨hkind, hkey⟩ := Prod.mk.inj h
  have ha : a ∈ e.rowsOf b.kind := mem_rowsOf_iff.mpr ⟨ha, hkind⟩
  have hb : b ∈ e.rowsOf b.kind := mem_rowsOf_iff.mpr ⟨hb, rfl⟩
  exact List.inj_on_of_nodup_map (nodup_rowKeys b.kind) ha hb hkey

theorem nodup_rows : e.rows.Nodup := by
  rw [List.nodup_iff_count_le_one]
  intro row
  have hsame : (e.rowsOf row.kind).count row = e.rows.count row := by
    rw [← filter_rows]
    exact List.count_filter (beq_self_eq_true row.kind)
  rw [← hsame]
  exact List.nodup_iff_count_le_one.mp (List.Nodup.of_map _ (nodup_rowKeys row.kind)) row

/-- A store that an engine was saved to holds the rows of the engine, whatever it held
before. -/
theorem rows_save : (e.save s).rows = Table.ofList e.rows := by
  unfold save
  simp only [Store.foldl_put, Store.rows_putSetting, Store.rows_clear_all]
  rfl

theorem settings_save : (e.save s).settings =
    s.settings.insert ⟨factorySetting, Codec.factory.write e.factory⟩ := by
  unfold save
  simp only [Store.foldl_put, Store.putSetting, Store.settings_foldl_clear]

theorem mem_save_iff {row : Row} : row ∈ (e.save s).rows.records ↔ row ∈ e.rows := by
  rw [rows_save]
  exact Table.mem_ofList_iff fun a ha b hb => rows_distinct ha hb

theorem mem_rowsOf_save_iff {kind : RecordKind} {row : Row} :
    row ∈ (e.save s).rowsOf kind ↔ row ∈ e.rowsOf kind := by
  rw [Store.mem_rowsOf_iff, mem_save_iff, mem_rowsOf_iff]

theorem setting_save (name : Bytes) : (e.save s).setting? name =
    if name = factorySetting then some (Codec.factory.write e.factory)
    else s.setting? name := by
  unfold Store.setting?
  rw [settings_save]
  by_cases h : name = factorySetting
  · subst h
    rw [if_pos rfl]
    exact congrArg (Option.map Setting.value) (Table.find?_insert_self ..)
  · have hne : Keyed.key (⟨factorySetting, Codec.factory.write e.factory⟩ : Setting) ≠ name :=
      fun heq => h heq.symm
    rw [if_neg h, Table.find?_insert_of_ne hne]

/-- A saved engine is loaded back as it was. -/
theorem load_save (h : e.commitments.Countable) : load (e.save s) = .ok e := by
  have hsetting : (e.save s).setting? factorySetting = some (Codec.factory.write e.factory) := by
    rw [setting_save, if_pos rfl]
  have hfactory := (Codec.reads_factory e.factory).decode_write
  have hgauges : Layout.gauges.load (e.save s) = .ok e.registry.gauges :=
    Layout.load_eq_ok (fun g _ => Codec.reads_gauge g) fun _ => mem_rowsOf_save_iff
  have hbooks : Layout.voterBooks.load (e.save s) = .ok e.weights.books :=
    Layout.load_eq_ok (fun b _ => Codec.reads_voterBook b) fun _ => mem_rowsOf_save_iff
  have hweights : Layout.gaugeWeights.load (e.save s) = .ok e.weights.weights :=
    Layout.load_eq_ok (fun w _ => Codec.reads_gaugeWeight w) fun _ => mem_rowsOf_save_iff
  have hrecords : Layout.epochGauges.load (e.save s) = .ok e.commitments.epochGauges :=
    Layout.load_eq_ok (fun r _ => Codec.reads_epochGauge r) fun _ => mem_rowsOf_save_iff
  have hsnapshots : Layout.snapshots.load (e.save s) = .ok e.commitments.snapshots :=
    Layout.load_eq_ok (fun x hx => Codec.reads_snapshot (h x hx).1 (h x hx).2)
      fun _ => mem_rowsOf_save_iff
  have hvotes : Layout.votes.load (e.save s) = .ok e.commitments.votes :=
    Layout.load_eq_ok (fun x _ => Codec.reads_epochVote x) fun _ => mem_rowsOf_save_iff
  have hbribes : Layout.bribes.load (e.save s) = .ok e.bribes.bribes :=
    Layout.load_eq_ok (fun b _ => Codec.reads_bribe b) fun _ => mem_rowsOf_save_iff
  have hclaims : Layout.bribeClaims.load (e.save s) = .ok e.bribes.claims :=
    Layout.load_eq_ok (fun k _ => Codec.reads_bribeClaim k) fun _ => mem_rowsOf_save_iff
  have hclawbacks : Layout.bribeClawbacks.load (e.save s) = .ok e.bribes.clawbacks :=
    Layout.load_eq_ok (fun k _ => Codec.reads_bribeClawback k) fun _ => mem_rowsOf_save_iff
  unfold load
  rw [hsetting, hgauges, hbooks, hweights, hrecords, hsnapshots, hvotes, hbribes, hclaims,
    hclawbacks]
  show (Codec.factory.decode (Codec.factory.write e.factory)).mapError _ >>= _ = _
  rw [hfactory]
  rfl

end Engine
end EpochVoting
