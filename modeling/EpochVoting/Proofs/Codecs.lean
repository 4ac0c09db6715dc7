import EpochVoting.Proofs.TableSum
import EpochVoting.Store.Persistence
import Mathlib.Data.List.Induction

/-!
# What is written is read back

A codec reads a value back if, behind the bytes it wrote for the value, it finds the
value and leaves whatever follows (`Codec.Reads`).  Codecs built from codecs that read
back do so too, as long as every nested table is small enough for its number of records
to be written in eight bytes.  A value that is read back shares its written form with no
other such value, so records filed under written keys do not collide.
-/

namespace EpochVoting

open Std

namespace Bytes

/-- The digits of a number stand for the number, if they suffice. -/
theorem toNat_littleEndian {width n : Nat} (h : n < 256 ^ width) :
    toNat (littleEndian width n) = n := by
  induction width generalizing n with
  | zero =>
    rw [Nat.pow_zero] at h
    have hzero : n = 0 := by omega
    rw [hzero]
    rfl
  | succ width ih =>
    have hrest : n / 256 < 256 ^ width := by
      rw [Nat.pow_succ] at h
      omega
    rw [littleEndian, toNat, ih hrest, UInt8.toNat_ofNat']
    omega

end Bytes

namespace Codec

variable {α β : Type} {c : Codec α} {d : Codec β}

/-- The codec reads back what it wrote of a value, whatever bytes follow. -/
def Reads (c : Codec α) (x : α) : Prop :=
  ∀ rest, c.read (c.write x ++ rest) = .ok (x, rest)

/-! ## What a written form says -/

theorem Reads.decode_write {x : α} (h : c.Reads x) : c.decode (c.write x) = .ok x := by
  have hread := h []
  rw [List.append_nil] at hread
  unfold Codec.decode
  rw [hread]
  rfl

/-- Values that are read back have written forms of their own. -/
theorem Reads.eq_of_write_eq {x y : α} (hx : c.Reads x) (hy : c.Reads y)
    (h : c.write x = c.write y) : x = y := by
  have hsame := hx.decode_write
  rw [h, hy.decode_write] at hsame
  exact (Except.ok.inj hsame).symm

/-! ## Words, truth values and addresses -/

theorem takeBytes_append {count : Nat} {front : Bytes} (h : front.length = count)
    (rest : Bytes) : takeBytes count (front ++ rest) = .ok (front, rest) := by
  subst h
  unfold takeBytes
  rw [if_pos (by rw [List.length_append]; omega), List.take_left, List.drop_left]

/-- A number that fits is found behind its digits. -/
theorem takeBytes_littleEndian (width n : Nat) (rest : Bytes) :
    takeBytes width (Bytes.littleEndian width n ++ rest) =
      .ok (Bytes.littleEndian width n, rest) :=
  takeBytes_append (Bytes.length_littleEndian width n) rest

theorem reads_word32 (x : UInt32) : word32.Reads x := by
  intro rest
  have hdigits : Bytes.toNat (Bytes.littleEndian 4 x.toNat) = x.toNat :=
    Bytes.toNat_littleEndian x.toNat_lt_size
  show ((takeBytes 4 (Bytes.littleEndian 4 x.toNat ++ rest)) >>= _) = _
  rw [takeBytes_littleEndian]
  show Except.ok (UInt32.ofNat _, rest) = _
  rw [hdigits, UInt32.ofNat_toNat]

theorem reads_word64 (x : UInt64) : word64.Reads x := by
  intro rest
  have hdigits : Bytes.toNat (Bytes.littleEndian 8 x.toNat) = x.toNat :=
    Bytes.toNat_littleEndian x.toNat_lt_size
  show ((takeBytes 8 (Bytes.littleEndian 8 x.toNat ++ rest)) >>= _) = _
  rw [takeBytes_littleEndian]
  show Except.ok (UInt64.ofNat _, rest) = _
  rw [hdigits, UInt64.ofNat_toNat]

theorem reads_bool (x : Bool) : bool.Reads x := by
  intro rest
  cases x with
  | false => rfl
  | true => rfl

theorem reads_address (a : Address) : address.Reads a := by
  intro rest
  obtain ⟨bytes, hlength⟩ := a
  have hle : 32 ≤ (bytes ++ rest).length := by
    rw [List.length_append]
    omega
  show (if h : 32 ≤ (bytes ++ rest).length then _ else _) = _
  rw [dif_pos hle]
  apply congrArg Except.ok
  apply Prod.ext
  · apply Address.ext_bytes
    show (bytes ++ rest).take 32 = bytes
    rw [← hlength, List.take_left]
  · show (bytes ++ rest).drop 32 = rest
    rw [← hlength, List.drop_left]

/-! ## Records -/

theorem Reads.pair {p : α × β} (hc : c.Reads p.1) (hd : d.Reads p.2) :
    (c.pair d).Reads p := by
  intro rest
  show ((c.read (c.write p.1 ++ d.write p.2 ++ rest)) >>= _) = _
  rw [List.append_assoc, hc]
  show ((d.read (d.write p.2 ++ rest)) >>= _) = _
  rw [hd]
  rfl

theorem Reads.transport {there : α → β} {back : β → α} {y : β} (h : c.Reads (back y))
    (hback : there (back y) = y) : (c.transport there back).Reads y := by
  intro rest
  show (c.read (c.write (back y) ++ rest)).map _ = _
  rw [h]
  show Except.ok (there (back y), rest) = _
  rw [hback]

theorem reads_timestamp (t : Timestamp) : timestamp.Reads t :=
  (reads_word64 t.secs).transport rfl

theorem Reads.perSide {p : PerSide α} (ha : c.Reads p.a) (hb : c.Reads p.b) :
    c.perSide.Reads p :=
  (Reads.pair ha hb).transport rfl

/-! ## Lists and tables -/

theorem readMany_write {xs : List α} (h : ∀ x ∈ xs, c.Reads x) (rest : Bytes) :
    c.readMany xs.length (xs.flatMap c.write ++ rest) = .ok (xs, rest) := by
  induction xs with
  | nil => rfl
  | cons x xs ih =>
    have hx := h x List.mem_cons_self
    have hxs := ih fun y hy => h y (List.mem_cons_of_mem x hy)
    rw [List.flatMap_cons, List.append_assoc]
    show ((c.read (c.write x ++ (xs.flatMap c.write ++ rest))) >>= _) = _
    rw [hx]
    show ((c.readMany xs.length (xs.flatMap c.write ++ rest)) >>= _) = _
    rw [hxs]
    rfl

/-- A list is read back if its length can be written. -/
theorem Reads.list {xs : List α} (h : ∀ x ∈ xs, c.Reads x)
    (hlength : xs.length < UInt64.size) : c.list.Reads xs := by
  intro rest
  show ((word64.read (word64.write (UInt64.ofNat xs.length) ++ xs.flatMap c.write ++ rest))
    >>= _) = _
  rw [List.append_assoc, reads_word64]
  show c.readMany (UInt64.ofNat xs.length).toNat _ = _
  rw [UInt64.toNat_ofNat_of_lt' hlength]
  exact readMany_write h rest

end Codec

namespace Table

variable {ρ κ : Type} [Keyed ρ κ] [Ord κ] [TransOrd κ] [LawfulEqOrd κ]

theorem ofList_append_singleton (rs : List ρ) (r : ρ) :
    ofList (rs ++ [r]) = (ofList rs).insert r := by
  unfold ofList
  rw [List.foldl_append]
  rfl

/-- A list in which no two records share a key is the content of its table. -/
theorem mem_ofList_iff {rs : List ρ}
    (hkeys : ∀ r ∈ rs, ∀ s ∈ rs, Keyed.key r = Keyed.key s → r = s) {r : ρ} :
    r ∈ (ofList rs).records ↔ r ∈ rs := by
  induction rs using List.reverseRecOn with
  | nil => exact Iff.rfl
  | append_singleton rs last ih =>
    have hfront := ih fun r hr s hs =>
      hkeys r (List.mem_append_left _ hr) s (List.mem_append_left _ hs)
    rw [ofList_append_singleton, mem_insert_iff, hfront, List.mem_append,
      List.mem_singleton]
    constructor
    · rintro (rfl | ⟨hr, -⟩)
      · exact Or.inr rfl
      · exact Or.inl hr
    · rintro (hr | rfl)
      · by_cases hkey : Keyed.key r = Keyed.key last
        · exact Or.inl (hkeys r (List.mem_append_left _ hr) last
            (List.mem_append_right _ (List.mem_singleton_self last)) hkey)
        · exact Or.inr ⟨hr, hkey⟩
      · exact Or.inl rfl

/-- A list with the members of a table makes that table, whatever their order. -/
theorem ofList_eq {t : Table ρ} {rs : List ρ} (h : ∀ r, r ∈ rs ↔ r ∈ t.records) :
    ofList rs = t := by
  have hkeys : ∀ r ∈ rs, ∀ s ∈ rs, Keyed.key r = Keyed.key s → r = s :=
    fun r hr s hs hkey => eq_of_key_eq ((h r).mp hr) ((h s).mp hs) hkey
  exact ext_mem fun r => (mem_ofList_iff hkeys).trans (h r)

end Table

namespace Codec

/-- A table is read back if its number of records can be written. -/
theorem Reads.table {α κ : Type} [Keyed α κ] [Ord κ] [TransOrd κ] [LawfulEqOrd κ]
    {c : Codec α} {t : Table α} (h : ∀ r ∈ t.records, c.Reads r)
    (hsize : t.size < UInt64.size) : c.table.Reads t :=
  (Reads.list h hsize).transport (Table.ofList_eq fun _ => Iff.rfl)

/-! ## The records of an engine -/

theorem reads_factory (f : Factory) : factory.Reads f := by
  refine Reads.transport ?_ rfl
  exact (reads_address _).pair ((reads_word64 _).pair ((reads_word32 _).pair
    ((reads_timestamp _).pair (reads_word64 _))))

theorem reads_feeCounter (x : FeeCounter) : feeCounter.Reads x := by
  refine Reads.transport ?_ rfl
  exact (reads_address _).pair ((reads_word64 _).pair ((reads_word64 _).pair
    ((reads_word64 _).pair (reads_word64 _))))

theorem reads_gauge (g : Gauge) : gauge.Reads g := by
  refine Reads.transport ?_ rfl
  exact (reads_address _).pair ((reads_bool _).pair
    (.perSide (reads_feeCounter _) (reads_feeCounter _)))

theorem reads_voterBook (b : VoterBook) : voterBook.Reads b := by
  refine Reads.transport ?_ rfl
  exact (reads_address _).pair ((reads_word64 _).pair (reads_word64 _))

theorem reads_gaugeWeight (w : GaugeWeight) : gaugeWeight.Reads w := by
  refine Reads.transport ?_ rfl
  exact (reads_address _).pair ((reads_address _).pair (reads_word32 _))

theorem reads_epochGauge (r : EpochGauge) : epochGauge.Reads r := by
  refine Reads.transport ?_ rfl
  exact (reads_address _).pair ((reads_word32 _).pair ((reads_word64 _).pair
    ((reads_word64 _).pair (.perSide (reads_word64 _) (reads_word64 _)))))

theorem reads_feeClaimFlags (f : FeeClaimFlags) : feeClaimFlags.Reads f := by
  refine Reads.transport ?_ rfl
  exact (reads_address _).pair (.perSide (reads_bool _) (reads_bool _))

theorem reads_closedAllocation (a : ClosedAllocation) : closedAllocation.Reads a := by
  refine Reads.transport ?_ rfl
  exact (reads_address _).pair (reads_word64 _)

/-- A snapshot is read back if the numbers of its flags and of its closed allocations
can be written. -/
theorem reads_snapshot {s : Snapshot} (hflags : s.feeClaims.size < UInt64.size)
    (hclosed : s.closedAllocations.size < UInt64.size) : snapshot.Reads s := by
  refine Reads.transport ?_ rfl
  have htables : (feeClaimFlags.table.pair closedAllocation.table).Reads
      (s.feeClaims, s.closedAllocations) :=
    .pair (.table (fun f _ => reads_feeClaimFlags f) hflags)
      (.table (fun a _ => reads_closedAllocation a) hclosed)
  exact (reads_address _).pair ((reads_word32 _).pair ((reads_word64 _).pair
    ((reads_word64 _).pair ((reads_word64 _).pair ((reads_word64 _).pair htables)))))

theorem reads_epochVote (x : EpochVote) : epochVote.Reads x := by
  refine Reads.transport ?_ rfl
  exact (reads_address _).pair ((reads_address _).pair ((reads_word32 _).pair
    (reads_word64 _)))

theorem reads_bribe (b : Bribe) : bribe.Reads b := by
  refine Reads.transport ?_ rfl
  exact (reads_word64 _).pair ((reads_address _).pair ((reads_address _).pair
    ((reads_address _).pair ((reads_word64 _).pair ((reads_word32 _).pair
    ((reads_word32 _).pair ((reads_word64 _).pair (reads_word64 _))))))))

theorem reads_bribeClaim (k : BribeClaim) : bribeClaim.Reads k := by
  refine Reads.transport ?_ rfl
  exact (reads_address _).pair ((reads_word64 _).pair ((reads_word32 _).pair
    (reads_word64 _)))

theorem reads_bribeClawback (k : BribeClawback) : bribeClawback.Reads k := by
  refine Reads.transport ?_ rfl
  exact (reads_word64 _).pair ((reads_word32 _).pair (reads_word64 _))

end Codec
end EpochVoting
