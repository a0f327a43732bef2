-- The laws of the version numbers of `constants.py`: `SplitVersion` undoes
-- `BuildVersion` exactly on the documented format, `BuildVersion` undoes
-- `SplitVersion` on every integer, and integers compare as their triples do.
import Mathlib.Logic.Equiv.Defs

namespace ganeti.constants

/-! ## The pure model -/

/-- Python's `divmod`: floor division, and the remainder with the sign of the
divisor. -/
def divmod (a b : Int) : Int × Int := (a.fdiv b, a.fmod b)

/-- `BuildVersion`, with Python's integers read as the mathematical integers. Read
so, its `isinstance(..., int)` asserts always hold; under the Python 2 that runs
this file an argument that is a `long` fails them, which this model leaves out. -/
def buildVersion (major minor revision : Int) : Int :=
  1000000 * major +
    10000 * minor +
        1 * revision

/-- `SplitVersion`; its `isinstance(version, int)` assert is read as `buildVersion`'s. -/
def splitVersion (version : Int) : Int × Int × Int :=
  let (major, remainder) := divmod version 1000000
  let (minor, revision) := divmod remainder 10000
  (major, minor, revision)

/-- Python's `<` on two `(major, minor, revision)` tuples: the first component
that differs decides. -/
def tupleLt (a b : Int × Int × Int) : Prop :=
  a.1 < b.1 ∨ a.1 = b.1 ∧ (a.2.1 < b.2.1 ∨ a.2.1 = b.2.1 ∧ a.2.2 < b.2.2)

instance (a b : Int × Int × Int) : Decidable (tupleLt a b) :=
  inferInstanceAs (Decidable (_ ∨ _))

/-! ## `divmod` by a divisor that is not negative -/

/-- For a divisor that is not negative, floor division is Lean's `/` and `%` on `Int`. -/
theorem divmod_of_nonneg (a : Int) {b : Int} (hb : 0 ≤ b) : divmod a b = (a / b, a % b) := by
  simp [divmod, Int.fdiv_eq_ediv a hb, Int.fmod_eq_emod a hb]

theorem splitVersion_eq (v : Int) :
    splitVersion v = (v / 1000000, v % 1000000 / 10000, v % 1000000 % 10000) := by
  simp [splitVersion, divmod_of_nonneg]

/-! ## Versions in the documented format -/

/-- A version in the format of the comment on `CONFIG_VERSION`: two decimal
digits of minor version and four of revision. -/
structure Version where
  major : Int
  minor : Int
  revision : Int
  minor_nonneg : 0 ≤ minor
  minor_le : minor ≤ 99
  revision_nonneg : 0 ≤ revision
  revision_le : revision ≤ 9999
  deriving DecidableEq

namespace Version

def toTuple (a : Version) : Int × Int × Int := (a.major, a.minor, a.revision)

/-- The version number of a version, as `BuildVersion` computes it. -/
def encode (a : Version) : Int := buildVersion a.major a.minor a.revision

/-- `SplitVersion` as a version: its minor version and revision always fit the
format. -/
def decode (v : Int) : Version where
  major := v / 1000000
  minor := v % 1000000 / 10000
  revision := v % 1000000 % 10000
  minor_nonneg := by omega
  minor_le := by omega
  revision_nonneg := by omega
  revision_le := by omega

theorem bounds (a : Version) : 0 ≤ a.minor ∧ a.minor ≤ 99 ∧ 0 ≤ a.revision ∧ a.revision ≤ 9999 :=
  ⟨a.minor_nonneg, a.minor_le, a.revision_nonneg, a.revision_le⟩

theorem bounds_of_toTuple_eq {a : Version} {M m r : Int} (h : a.toTuple = (M, m, r)) :
    0 ≤ m ∧ m ≤ 99 ∧ 0 ≤ r ∧ r ≤ 9999 := by
  simp only [toTuple, Prod.mk.injEq] at h
  obtain ⟨-, rfl, rfl⟩ := h
  exact a.bounds

theorem toTuple_injective {a b : Version} (h : a.toTuple = b.toTuple) : a = b := by
  cases a; cases b
  simp only [toTuple, Prod.mk.injEq] at h
  obtain ⟨rfl, rfl, rfl⟩ := h
  rfl

theorem toTuple_decode (v : Int) : (decode v).toTuple = splitVersion v :=
  (splitVersion_eq v).symm

theorem encode_decode (v : Int) : (decode v).encode = v := by
  simp only [decode, encode, buildVersion]
  omega

theorem splitVersion_encode (a : Version) : splitVersion a.encode = a.toTuple := by
  have := a.bounds
  simp only [splitVersion_eq, encode, buildVersion, toTuple, Prod.mk.injEq]
  omega

theorem decode_encode (a : Version) : decode a.encode = a :=
  toTuple_injective ((toTuple_decode _).trans (splitVersion_encode a))

/-- The version numbers are the versions of the documented format, one for one. -/
def equiv : Version ≃ Int where
  toFun := encode
  invFun := decode
  left_inv := decode_encode
  right_inv := encode_decode

/-- On the format, version numbers compare as Python compares the tuples. -/
theorem encode_lt_encode (a b : Version) :
    a.encode < b.encode ↔ tupleLt a.toTuple b.toTuple := by
  have := a.bounds
  have := b.bounds
  simp only [encode, buildVersion, tupleLt, toTuple]
  omega

end Version

/-! ## The laws -/

/-- Decoding undoes encoding exactly when the minor version and the revision fit
their fields. -/
theorem splitVersion_buildVersion_iff (major minor revision : Int) :
    splitVersion (buildVersion major minor revision) = (major, minor, revision) ↔
      0 ≤ minor ∧ minor ≤ 99 ∧ 0 ≤ revision ∧ revision ≤ 9999 :=
  ⟨fun h => Version.bounds_of_toTuple_eq ((Version.toTuple_decode _).trans h),
    fun ⟨h1, h2, h3, h4⟩ => Version.splitVersion_encode ⟨major, minor, revision, h1, h2, h3, h4⟩⟩

/-- Out of the format two triples alias: minor version 100 of 2 is 3.0. -/
example : buildVersion 2 100 0 = buildVersion 3 0 0 := rfl

/-- Every integer decodes to a triple in the format, which encodes back to it. -/
theorem buildVersion_splitVersion (v : Int) :
    ∃ major minor revision, splitVersion v = (major, minor, revision) ∧
      (0 ≤ minor ∧ minor ≤ 99 ∧ 0 ≤ revision ∧ revision ≤ 9999) ∧
      buildVersion major minor revision = v :=
  let a := Version.decode v
  ⟨a.major, a.minor, a.revision, (Version.toTuple_decode v).symm,
    a.bounds, Version.encode_decode v⟩

/-- Version numbers compare as their triples do, and on the format `BuildVersion`
is strictly increasing. -/
theorem lt_iff_tupleLt_splitVersion :
    (∀ v w : Int, v < w ↔ tupleLt (splitVersion v) (splitVersion w)) ∧
    ∀ a b : Version, tupleLt a.toTuple b.toTuple →
      buildVersion a.major a.minor a.revision < buildVersion b.major b.minor b.revision := by
  refine ⟨fun v w => ?_, fun a b => (Version.encode_lt_encode a b).2⟩
  rw [← Version.toTuple_decode, ← Version.toTuple_decode, ← Version.encode_lt_encode,
    Version.encode_decode, Version.encode_decode]

end ganeti.constants
