import DeviceSupport.Units.Conversion
import Mathlib.Algebra.Group.Int.Defs
import Mathlib.Algebra.Group.Nat.Defs

/-! Numbers that travel in signed words of 32 bits.

A number that fits is read back as it was. Any other is read back as the one that fits and differs
from it by a multiple of the size of a word, so that sums and differences survive words up to that
size. -/
namespace DeviceSupport
set_option autoImplicit false

/-- A signed word holds the number. -/
def FitsWord (v : Int) : Prop := -2 ^ 31 ≤ v ∧ v < 2 ^ 31

instance (v : Int) : Decidable (FitsWord v) := inferInstanceAs (Decidable (_ ∧ _))

theorem signedOfWord_eq (w : UInt32) : signedOfWord w = (w.toNat : Int).bmod 4294967296 :=
  BitVec.toInt_eq_toNat_bmod w.toBitVec

theorem toNat_wordOfSigned (v : Int) : ((wordOfSigned v).toNat : Int) = v % 4294967296 := by
  rw [wordOfSigned, UInt32.toNat_ofNat']
  omega

theorem signedOfWord_wordOfSigned (v : Int) :
    signedOfWord (wordOfSigned v) = v.bmod 4294967296 := by
  rw [signedOfWord_eq, toNat_wordOfSigned]
  exact Int.emod_bmod v 4294967296

theorem signedOfWord_of_fits {v : Int} (h : FitsWord v) : signedOfWord (wordOfSigned v) = v := by
  obtain ⟨hlow, hhigh⟩ := h
  rw [signedOfWord_wordOfSigned, Int.bmod_def]
  omega

theorem fitsWord_signedOfWord (w : UInt32) : FitsWord (signedOfWord w) := by
  have hlt := w.toNat_lt
  rw [signedOfWord_eq, Int.bmod_def]
  constructor <;> omega

/-- A number is read back from a word exactly when it fits. -/
theorem signedOfWord_wordOfSigned_iff {v : Int} :
    signedOfWord (wordOfSigned v) = v ↔ FitsWord v :=
  ⟨fun h => h ▸ fitsWord_signedOfWord _, signedOfWord_of_fits⟩

theorem signedOfWord_wordOfSigned_emod (v : Int) :
    signedOfWord (wordOfSigned v) % 4294967296 = v % 4294967296 := by
  rw [signedOfWord_wordOfSigned]
  exact Int.bmod_emod

theorem wordOfSigned_signedOfWord (w : UInt32) : wordOfSigned (signedOfWord w) = w := by
  have hlt : w.toNat < 4294967296 := w.toNat_lt
  refine UInt32.toNat.inj (Int.ofNat.inj ?_)
  rw [Int.ofNat_eq_natCast, Int.ofNat_eq_natCast, toNat_wordOfSigned, signedOfWord_eq, Int.bmod_def]
  omega

/-- A word does not tell numbers apart that differ by a multiple of its size. -/
theorem wordOfSigned_congr {v v' : Int} (h : v % 4294967296 = v' % 4294967296) :
    wordOfSigned v = wordOfSigned v' := by
  rw [wordOfSigned, wordOfSigned, h]

end DeviceSupport
