import DeviceSupport.Profile.Tuple
import DeviceSupport.Table

/-! Where the primitives with a tuple stand.

A `TupleTable` maps each tuple to the chain of its positions, oldest first. Tuples are spread over
a fixed number of buckets, so that a look-up reads one bucket; `chain_push` says that the buckets
do not show. -/
namespace DeviceSupport
set_option autoImplicit false

namespace TupleTable

/-- The bucket count that package compilers use as well. -/
def bucketCount : Nat := 31

end TupleTable

/-- The bucket of a tuple. -/
def Tuple.bucket (t : Tuple) : Fin TupleTable.bucketCount :=
  ⟨(t.id.toNat + 3 * t.domain.toNat + 7 * t.instanceId.toNat) % TupleTable.bucketCount,
    Nat.mod_lt _ (by decide)⟩

structure TupleTable where
  buckets : Vector (Table Tuple (List Nat)) TupleTable.bucketCount
  deriving DecidableEq, Repr

namespace TupleTable

def empty : TupleTable := ⟨Vector.replicate bucketCount []⟩

instance : Inhabited TupleTable := ⟨empty⟩

/-- The positions of a tuple, oldest first. -/
def chain (table : TupleTable) (t : Tuple) : List Nat :=
  (Table.get? t table.buckets[t.bucket]).getD []

/-- Adds a position behind those that a tuple has. -/
def push (table : TupleTable) (t : Tuple) (position : Nat) : TupleTable :=
  let bucket := Table.insert t (table.chain t ++ [position]) table.buckets[t.bucket]
  ⟨table.buckets.set t.bucket.val bucket t.bucket.isLt⟩

theorem chain_empty (t : Tuple) : empty.chain t = [] := by
  simp [chain, empty, Table.get?]

theorem chain_push (table : TupleTable) (t other : Tuple) (position : Nat) :
    (table.push t position).chain other =
      if t = other then table.chain t ++ [position] else table.chain other := by
  by_cases hb : t.bucket.val = other.bucket.val
  · have hb' : t.bucket = other.bucket := Fin.ext hb
    by_cases ht : t = other <;> simp [chain, push, hb', Table.get?_insert, ht]
  · have ht : t ≠ other := fun h => hb (by rw [h])
    simp [chain, push, Vector.getElem_set_ne, hb, ht]

end TupleTable

end DeviceSupport
