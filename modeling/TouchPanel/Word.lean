import TouchPanel.Fault

/-!
# Words

Coordinates, sizes and byte counts are 64-bit words, of which there are `1 <<< 64`. Three families
of operations are used:

* **saturating** (`addSat`, `subSat`, `mulSat`): the exact result, moved to the nearest word;
* **checked** (`add?`, `mul?`): the exact result, or `none` when it is no word;
* **exact** (`addExact`, `subExact`, `mulExact`): the exact result, or an overflow fault.

Each has one lemma that gives its meaning in the natural numbers; nothing else needs to
unfold it.
-/

namespace TouchPanel

/-- A 64-bit machine word. -/
abbrev Word := UInt64

namespace Word

/-- The largest word. -/
def top : Word := 0xFFFFFFFFFFFFFFFF

@[simp] theorem toNat_top : top.toNat = (1 <<< 64) - 1 := rfl

theorem toNat_le_top (a : Word) : a.toNat ≤ (1 <<< 64) - 1 := by
  have := a.toNat_lt
  omega

/-! ## Minimum and maximum -/

@[simp] theorem toNat_min (a b : Word) : (min a b).toNat = min a.toNat b.toNat := by
  change (if a ≤ b then a else b).toNat = _
  split <;> rename_i h <;> rw [UInt64.le_iff_toNat_le] at h <;> omega

@[simp] theorem toNat_max (a b : Word) : (max a b).toNat = max a.toNat b.toNat := by
  change (if a ≤ b then b else a).toNat = _
  split <;> rename_i h <;> rw [UInt64.le_iff_toNat_le] at h <;> omega

/-! ## Machine operations within their range -/

theorem toNat_add_of_lt {a b : Word} (h : a.toNat + b.toNat < 1 <<< 64) :
    (a + b).toNat = a.toNat + b.toNat := by
  rw [UInt64.toNat_add]
  exact Nat.mod_eq_of_lt h

theorem toNat_sub_of_ge {a b : Word} (h : b.toNat ≤ a.toNat) :
    (a - b).toNat = a.toNat - b.toNat := by
  have ha := a.toNat_lt
  have hb := b.toNat_lt
  rw [UInt64.toNat_sub]
  omega

theorem toNat_mul_of_lt {a b : Word} (h : a.toNat * b.toNat < 1 <<< 64) :
    (a * b).toNat = a.toNat * b.toNat := by
  rw [UInt64.toNat_mul]
  exact Nat.mod_eq_of_lt h

theorem toNat_half (a : Word) : (a / 2).toNat = a.toNat / 2 := UInt64.toNat_div a 2

/-- A machine sum is below its first summand exactly when it wrapped. -/
theorem add_lt_left_iff {a b : Word} : a + b < a ↔ 1 <<< 64 ≤ a.toNat + b.toNat := by
  have ha := a.toNat_lt
  have hb := b.toNat_lt
  rw [UInt64.lt_iff_toNat_lt, UInt64.toNat_add]
  omega

/-! ## Saturating operations -/

/-- Sum, held at the largest word. -/
def addSat (a b : Word) : Word :=
  if a + b < a then top else a + b

/-- Difference, held at zero. -/
def subSat (a b : Word) : Word :=
  if a < b then 0 else a - b

/-- Product, held at the largest word. -/
def mulSat (a b : Word) : Word :=
  if a.toNat * b.toNat < 1 <<< 64 then a * b else top

@[simp] theorem toNat_addSat (a b : Word) :
    (addSat a b).toNat = min ((1 <<< 64) - 1) (a.toNat + b.toNat) := by
  unfold addSat
  split
  · rename_i h
    rw [add_lt_left_iff] at h
    rw [toNat_top]
    omega
  · rename_i h
    rw [add_lt_left_iff] at h
    rw [toNat_add_of_lt (by omega)]
    omega

@[simp] theorem addSat_zero (a : Word) : addSat a 0 = a := by
  have := a.toNat_lt
  rw [← UInt64.toNat_inj, toNat_addSat, UInt64.toNat_zero]
  omega

/-- It makes no difference whether a sum is held at the limit on the way. -/
theorem addSat_assoc (a b c : Word) : (a.addSat b).addSat c = a.addSat (b.addSat c) := by
  rw [← UInt64.toNat_inj]
  simp only [toNat_addSat]
  omega

@[simp] theorem toNat_subSat (a b : Word) : (subSat a b).toNat = a.toNat - b.toNat := by
  unfold subSat
  split
  · rename_i h
    rw [UInt64.lt_iff_toNat_lt] at h
    rw [UInt64.toNat_zero]
    omega
  · rename_i h
    rw [UInt64.lt_iff_toNat_lt] at h
    exact toNat_sub_of_ge (by omega)

@[simp] theorem toNat_mulSat (a b : Word) :
    (mulSat a b).toNat = min ((1 <<< 64) - 1) (a.toNat * b.toNat) := by
  unfold mulSat
  split
  · rename_i h
    rw [toNat_mul_of_lt h]
    omega
  · rw [toNat_top]
    omega

/-! ## Checked operations -/

/-- The sum, if it is a word. -/
def add? (a b : Word) : Option Word :=
  if a + b < a then none else some (a + b)

/-- The product, if it is a word. -/
def mul? (a b : Word) : Option Word :=
  if a.toNat * b.toNat < 1 <<< 64 then some (a * b) else none

theorem add?_eq_some_iff {a b c : Word} :
    add? a b = some c ↔ c.toNat = a.toNat + b.toNat := by
  have hc := c.toNat_lt
  unfold add?
  split
  · rename_i h
    rw [add_lt_left_iff] at h
    simp only [reduceCtorEq, false_iff]
    omega
  · rename_i h
    rw [add_lt_left_iff] at h
    rw [Option.some.injEq, ← UInt64.toNat_inj, toNat_add_of_lt (by omega)]
    exact eq_comm

theorem mul?_eq_some_iff {a b c : Word} :
    mul? a b = some c ↔ c.toNat = a.toNat * b.toNat := by
  have hc := c.toNat_lt
  unfold mul?
  split
  · rename_i h
    rw [Option.some.injEq, ← UInt64.toNat_inj, toNat_mul_of_lt h]
    exact eq_comm
  · simp only [reduceCtorEq, false_iff]
    omega

/-! ## Exact operations -/

/-- The sum, or an overflow fault. -/
def addExact (a b : Word) : Except Fault Word :=
  if a + b < a then .error (.overflow .add) else .ok (a + b)

/-- The difference, or an overflow fault. -/
def subExact (a b : Word) : Except Fault Word :=
  if a < b then .error (.overflow .sub) else .ok (a - b)

/-- The product, or an overflow fault. -/
def mulExact (a b : Word) : Except Fault Word :=
  if a.toNat * b.toNat < 1 <<< 64 then .ok (a * b) else .error (.overflow .mul)

/-- So many times a word, or an overflow fault. -/
def timesExact (count : Nat) (a : Word) : Except Fault Word :=
  if count * a.toNat < 1 <<< 64 then .ok (UInt64.ofNat (count * a.toNat))
  else .error (.overflow .mul)

theorem addExact_of_lt {a b : Word} (h : a.toNat + b.toNat < 1 <<< 64) :
    addExact a b = .ok (a + b) := by
  unfold addExact
  rw [if_neg]
  rw [add_lt_left_iff]
  omega

theorem addExact_of_ge {a b : Word} (h : 1 <<< 64 ≤ a.toNat + b.toNat) :
    addExact a b = .error (.overflow .add) := by
  unfold addExact
  rw [if_pos (add_lt_left_iff.2 h)]

theorem addExact_eq_ok_iff {a b c : Word} :
    addExact a b = .ok c ↔ a.toNat + b.toNat < 1 <<< 64 ∧ c = a + b := by
  by_cases h : a.toNat + b.toNat < 1 <<< 64
  · rw [addExact_of_lt h, Except.ok.injEq]
    simp only [h, true_and]
    exact eq_comm
  · rw [addExact_of_ge (Nat.le_of_not_lt h)]
    simp only [reduceCtorEq, h, false_and]

theorem subExact_of_ge {a b : Word} (h : b.toNat ≤ a.toNat) :
    subExact a b = .ok (a - b) := by
  unfold subExact
  rw [if_neg]
  rw [UInt64.lt_iff_toNat_lt]
  omega

theorem mulExact_of_lt {a b : Word} (h : a.toNat * b.toNat < 1 <<< 64) :
    mulExact a b = .ok (a * b) := by
  unfold mulExact
  rw [if_pos h]

end Word

end TouchPanel
