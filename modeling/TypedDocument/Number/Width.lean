/-!
# Integers of a fixed width

The signed integers of 32 and of 64 bits, as ranges of `Int`, and the floats of the latter.
-/

namespace TypedDocument

/-- Whether an integer fits 32 signed bits. -/
def fitsInt32 (i : Int) : Bool := -0x80000000 ≤ i && i < 0x80000000

/-- Whether an integer fits 64 signed bits. -/
def fitsInt64 (i : Int) : Bool := -0x8000000000000000 ≤ i && i < 0x8000000000000000

/-- Every integer of 32 bits is in the range. -/
@[simp] theorem fitsInt32_toInt (i : Int32) : fitsInt32 i.toInt = true := by
  have hlow := i.le_toInt
  have hhigh := i.toInt_lt
  simp only [fitsInt32, Bool.and_eq_true, decide_eq_true_eq]
  omega

/-- Every integer of 64 bits is in the range. -/
@[simp] theorem fitsInt64_toInt (i : Int64) : fitsInt64 i.toInt = true := by
  have hlow := i.le_toInt
  have hhigh := i.toInt_lt
  simp only [fitsInt64, Bool.and_eq_true, decide_eq_true_eq]
  omega

/-- The smaller range lies within the larger one. -/
theorem fitsInt64_of_fitsInt32 {i : Int} (h : fitsInt32 i = true) : fitsInt64 i = true := by
  simp only [fitsInt32, fitsInt64, Bool.and_eq_true, decide_eq_true_eq] at h ⊢
  omega

/-- An integer in the range survives storage in 32 bits. -/
theorem toInt_ofInt_of_fitsInt32 {i : Int} (h : fitsInt32 i = true) :
    (Int32.ofInt i).toInt = i := by
  simp only [fitsInt32, Bool.and_eq_true, decide_eq_true_eq] at h
  exact Int32.toInt_ofInt_of_le (by omega) (by omega)

/-- An integer in the range survives storage in 64 bits. -/
theorem toInt_ofInt_of_fitsInt64 {i : Int} (h : fitsInt64 i = true) :
    (Int64.ofInt i).toInt = i := by
  simp only [fitsInt64, Bool.and_eq_true, decide_eq_true_eq] at h
  exact Int64.toInt_ofInt_of_le (by omega) (by omega)

/-- The nearest float of an integer of 64 bits. -/
def floatOfInt64 (i : Int64) : Float :=
  let x := (UInt64.ofNat i.toInt.natAbs).toFloat
  if i.toInt < 0 then -x else x

end TypedDocument
