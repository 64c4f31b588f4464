import XrLayer.Input.Pose
/-!
The legacy 3×4 matrix and the 4×4 matrix it stands for.

A 4×4 matrix is stored by columns and a legacy matrix by rows, so both conversions go through
`Mat4.row` and `Mat4.ofRows`, which are inverse to each other (`ofRows_eq_iff`). Reading a legacy
matrix as a 4×4 one sets its three rows on top of `(0, 0, 0, 1)`, and dropping the bottom row gives
it back lane for lane. The other way round a matrix comes back exactly when its bottom row already
is `(+0, +0, +0, 1)` bit for bit, which every rigid transform of a pose has, whatever its
orientation. Equality of 32-bit floats here is equality of their bit patterns, so a `-0` in the
bottom row is not returned. Main statement: `hmd34_roundTrip`.
-/
namespace XrLayer

open Linear

namespace Linear.Mat4

theorem ofRows_rows (m : Mat4) : ofRows (m.row 0) (m.row 1) (m.row 2) (m.row 3) = m := rfl

/-- A matrix is determined by its four rows. -/
theorem ofRows_eq_iff {r0 r1 r2 r3 : Vec4} {m : Mat4} :
    ofRows r0 r1 r2 r3 = m ↔ r0 = m.row 0 ∧ r1 = m.row 1 ∧ r2 = m.row 2 ∧ r3 = m.row 3 := by
  constructor
  · rintro rfl
    exact ⟨rfl, rfl, rfl, rfl⟩
  · rintro ⟨rfl, rfl, rfl, rfl⟩
    exact ofRows_rows m

/-- A rigid transform keeps `(0, 0, 0, 1)` as its bottom row, whatever the quaternion. -/
theorem rigid_row_three (q : Quat) (t : Vec3) : (rigid q t).row 3 = ⟨0, 0, 0, 1⟩ := rfl

end Linear.Mat4

theorem float32_eq_iff_toBits {a b : Float32} : a = b ↔ a.toBits = b.toBits := by
  constructor
  · rintro rfl
    rfl
  · obtain ⟨⟨a, ha⟩⟩ := a
    obtain ⟨⟨b, hb⟩⟩ := b
    rintro (rfl : a = b)
    rfl

theorem vec4_eq_unitW_iff (v : Vec4) :
    v = ⟨0, 0, 0, 1⟩ ↔
      v.x.toBits = 0 ∧ v.y.toBits = 0 ∧ v.z.toBits = 0 ∧ v.w.toBits = 0x3F800000 := by
  have hzero : (0 : Float32).toBits = 0 := by decide
  have hone : (1 : Float32).toBits = 0x3F800000 := by decide
  obtain ⟨x, y, z, w⟩ := v
  simp only [Vec4.mk.injEq, float32_eq_iff_toBits, hzero, hone]

namespace Hmd34

theorem ofMat4_toMat4 (h : Hmd34) : ofMat4 h.toMat4 = h := rfl

theorem toMat4_ofMat4_eq_iff (m : Mat4) : (ofMat4 m).toMat4 = m ↔ m.row 3 = ⟨0, 0, 0, 1⟩ := by
  simp only [toMat4, ofMat4, Mat4.ofRows_eq_iff, true_and]
  exact eq_comm

end Hmd34

/-- The legacy matrix against the 4×4 one. A legacy matrix read as a 4×4 matrix and written back
is itself, lane for lane. A 4×4 matrix written as a legacy one and read back is itself exactly when
its bottom row has the bit patterns of `+0, +0, +0, 1`; so the rigid transform of every pose comes
back, its orientation normalised or not. -/
theorem hmd34_roundTrip :
    (∀ h : Hmd34, Hmd34.ofMat4 h.toMat4 = h) ∧
    (∀ m : Mat4, (Hmd34.ofMat4 m).toMat4 = m ↔
      (m.row 3).x.toBits = 0 ∧ (m.row 3).y.toBits = 0 ∧ (m.row 3).z.toBits = 0 ∧
        (m.row 3).w.toBits = 0x3F800000) ∧
    (∀ p : Pose, (Hmd34.ofMat4 p.toMat4).toMat4 = p.toMat4) := by
  refine ⟨Hmd34.ofMat4_toMat4, fun m => ?_, fun p => ?_⟩
  · rw [Hmd34.toMat4_ofMat4_eq_iff, vec4_eq_unitW_iff]
  · exact (Hmd34.toMat4_ofMat4_eq_iff _).2 (Mat4.rigid_row_three _ _)

end XrLayer
