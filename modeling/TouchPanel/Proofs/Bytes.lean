import TouchPanel.Fault

/-!
# Bytes with faults

The functions that read bytes use array operations and byte arithmetic that cannot fail. Here are
the same operations with a fault where there is no result, and when there is one. What reads bytes
is stated again with these, to show that it never needs a result that does not exist.
-/

namespace TouchPanel

-- ---------------------------------------------------------------------------
-- Places
-- ---------------------------------------------------------------------------

namespace Bytes

variable {data : Array UInt8} {start stop place : Nat}

/-- The byte in a place, or a fault past the end. -/
def get (data : Array UInt8) (place : Nat) : Except Fault UInt8 :=
  if place < data.size then .ok (data.getD place 0) else .error .outOfRange

/-- The bytes from one place to another, or a fault when these are no places in this order. -/
def slice (data : Array UInt8) (start stop : Nat) : Except Fault (Array UInt8) :=
  if start ≤ stop ∧ stop ≤ data.size then .ok (data.extract start stop) else .error .outOfRange

/-- How many bytes there are from a place on, or an overflow fault. -/
def countFrom (data : Array UInt8) (start : Nat) : Except Fault Nat :=
  if start ≤ data.size then .ok (data.size - start) else .error (.overflow .sub)

theorem get_of_lt (h : place < data.size) : get data place = .ok (data.getD place 0) := if_pos h

theorem slice_of_le (hOrder : start ≤ stop) (hStop : stop ≤ data.size) :
    slice data start stop = .ok (data.extract start stop) := if_pos ⟨hOrder, hStop⟩

theorem get_of_getElem? {byte : UInt8} (h : data[place]? = some byte) :
    get data place = .ok byte := by
  obtain ⟨hLt, -⟩ := Array.getElem?_eq_some_iff.mp h
  rw [get_of_lt hLt, Array.getD_eq_getD_getElem?, h, Option.getD_some]

theorem countFrom_of_le (h : start ≤ data.size) : countFrom data start = .ok (data.size - start) :=
  if_pos h

end Bytes

-- ---------------------------------------------------------------------------
-- Arithmetic
-- ---------------------------------------------------------------------------

namespace Byte

variable {a b : UInt8}

/-- The sum, or an overflow fault. -/
def addExact (a b : UInt8) : Except Fault UInt8 :=
  if a.toNat + b.toNat < 256 then .ok (a + b) else .error (.overflow .add)

/-- The difference, or an overflow fault. -/
def subExact (a b : UInt8) : Except Fault UInt8 :=
  if b.toNat ≤ a.toNat then .ok (a - b) else .error (.overflow .sub)

/-- The product, or an overflow fault. -/
def mulExact (a b : UInt8) : Except Fault UInt8 :=
  if a.toNat * b.toNat < 256 then .ok (a * b) else .error (.overflow .mul)

theorem addExact_of_lt (h : a.toNat + b.toNat < 256) : addExact a b = .ok (a + b) := if_pos h

theorem subExact_of_le (h : b.toNat ≤ a.toNat) : subExact a b = .ok (a - b) := if_pos h

theorem mulExact_of_lt (h : a.toNat * b.toNat < 256) : mulExact a b = .ok (a * b) := if_pos h

theorem toNat_add_of_lt (h : a.toNat + b.toNat < 256) : (a + b).toNat = a.toNat + b.toNat := by
  rw [UInt8.toNat_add]
  exact Nat.mod_eq_of_lt h

theorem toNat_sub_of_le (h : b.toNat ≤ a.toNat) : (a - b).toNat = a.toNat - b.toNat :=
  UInt8.toNat_sub_of_le a b (UInt8.le_iff_toNat_le.mpr h)

theorem toNat_mul_of_lt (h : a.toNat * b.toNat < 256) : (a * b).toNat = a.toNat * b.toNat := by
  rw [UInt8.toNat_mul]
  exact Nat.mod_eq_of_lt h

end Byte

end TouchPanel
