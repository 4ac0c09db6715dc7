import EpochVoting.Error
import EpochVoting.Table

/-!
# Record stores

A store holds byte strings under byte-string keys, in one table for each kind of
record, and a separate table of settings.  It knows nothing of what the bytes
mean.
-/

namespace EpochVoting

open Std

/-- The kinds of records that are stored, in the order in which they are listed. -/
inductive RecordKind where
  | gauges
  | voterBooks
  | gaugeWeights
  | epochGauges
  | epochVoters
  | epochVotes
  | bribes
  | bribeClaims
  | bribeClawbacks
deriving DecidableEq

namespace RecordKind

/-- All kinds, in order. -/
def all : List RecordKind :=
  [gauges, voterBooks, gaugeWeights, epochGauges, epochVoters, epochVotes, bribes,
    bribeClaims, bribeClawbacks]

/-- The name of a kind. -/
def name : RecordKind → String
  | gauges => "gauges"
  | voterBooks => "voter_books"
  | gaugeWeights => "gauge_weights"
  | epochGauges => "epoch_gauges"
  | epochVoters => "epoch_voters"
  | epochVotes => "epoch_votes"
  | bribes => "bribes"
  | bribeClaims => "bribe_claims"
  | bribeClawbacks => "bribe_clawbacks"

/-- The place of a kind in the order. -/
def index : RecordKind → Nat
  | gauges => 0
  | voterBooks => 1
  | gaugeWeights => 2
  | epochGauges => 3
  | epochVoters => 4
  | epochVotes => 5
  | bribes => 6
  | bribeClaims => 7
  | bribeClawbacks => 8

theorem index_injective {k l : RecordKind} (h : k.index = l.index) : k = l := by
  cases k <;> cases l <;> simp_all [index]

/-- Kinds are ordered as they are listed. -/
instance : Ord RecordKind where
  compare := compareOn index

instance : TransOrd RecordKind :=
  inferInstanceAs (TransCmp (compareOn index))

instance : LawfulEqOrd RecordKind where
  compare_self := (inferInstance : ReflCmp (compareOn index)).compare_self
  eq_of_compare h := index_injective (LawfulEqOrd.eq_of_compare h)

end RecordKind

/-- A stored record. -/
structure Row where
  kind : RecordKind
  rowKey : Bytes
  value : Bytes
deriving DecidableEq

/-- A stored setting. -/
structure Setting where
  name : Bytes
  value : Bytes
deriving DecidableEq

/-- A row is filed under its kind and its key. -/
instance : Keyed Row (RecordKind × Bytes) := ⟨fun r => (r.kind, r.rowKey)⟩

/-- A setting is filed under its name. -/
instance : Keyed Setting Bytes := ⟨Setting.name⟩

/-- A store of records and settings. -/
structure Store where
  rows : Table Row
  settings : Table Setting
deriving DecidableEq

namespace Store

/-- The store without content. -/
def empty : Store := ⟨Table.empty, Table.empty⟩

/-- The value of a record. -/
def get? (s : Store) (kind : RecordKind) (k : Bytes) : Option Bytes :=
  (s.rows.find? (kind, k)).map Row.value

/-- The store with a record written. -/
def put (s : Store) (kind : RecordKind) (k value : Bytes) : Store :=
  { s with rows := s.rows.insert ⟨kind, k, value⟩ }

/-- The store without a record. -/
def delete (s : Store) (kind : RecordKind) (k : Bytes) : Store :=
  { s with rows := s.rows.erase (kind, k) }

/-- The records of a kind, in the order of their keys. -/
def rowsOf (s : Store) (kind : RecordKind) : List Row :=
  s.rows.records.filter fun r => r.kind == kind

/-- The store without the records of a kind. -/
def clear (s : Store) (kind : RecordKind) : Store :=
  { s with rows := Table.ofList (s.rows.records.filter fun r => r.kind != kind) }

/-- The number of records of a kind. -/
def size (s : Store) (kind : RecordKind) : Nat :=
  (s.rowsOf kind).length

/-- Whether there are no records of any kind; settings do not count. -/
def isEmpty (s : Store) : Bool :=
  s.rows.records.isEmpty

/-- The value of a setting. -/
def setting? (s : Store) (name : Bytes) : Option Bytes :=
  (s.settings.find? name).map Setting.value

/-- The store with a setting written. -/
def putSetting (s : Store) (name value : Bytes) : Store :=
  { s with settings := s.settings.insert ⟨name, value⟩ }

end Store
end EpochVoting
