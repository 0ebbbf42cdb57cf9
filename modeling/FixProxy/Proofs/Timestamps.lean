import FixProxy.Crypto
import Mathlib.Algebra.Order.Group.Abs
import Mathlib.Algebra.Order.Group.Int
import Mathlib.Algebra.Ring.Nat

/-! The timestamp of a password. Every count is a 64-bit integer, so the time that is
compared is the time that was sent only while nothing wraps. -/

namespace FixProxy.Crypto

def stamp (rawData : String) : String := String.ofList (rawData.toList.takeWhile (· ≠ '.'))

/-- The time that a client sends, in nanoseconds and without wrapping. -/
def sent (library : Library) (rawData : String) : Int := (library.fromChars (stamp rawData)).toInt * 10 ^ 6

def seen (time : Int) : Int := time.bmod (2 ^ 64)

private theorem toInt_millisecondsToNanoseconds (library : Library) (rawData : String) :
    (millisecondsToNanoseconds (library.fromChars (stamp rawData))).toInt = seen (sent library rawData) := by
  unfold millisecondsToNanoseconds
  rw [BitVec.toInt_mul]
  rfl

/-- The time passes the comparison with the clock. -/
def Fresh (tolerance now time : Int) : Prop := |seen time - now| ≤ tolerance ∨ seen time ≤ now - 2 ^ 63

private theorem fresh_iff {tolerance now time : BitVec 64} (clock : 0 ≤ now.toInt) (tolerant : 0 ≤ tolerance.toInt) :
    tolerance.slt (if time.slt now then now - time else time - now) = false ↔
      |time.toInt - now.toInt| ≤ tolerance.toInt ∨ time.toInt ≤ now.toInt - 2 ^ 63 := by
  have below := BitVec.toInt_lt (x := time)
  have above := BitVec.le_toInt time
  have belowNow := BitVec.toInt_lt (x := now)
  have belowTolerance := BitVec.toInt_lt (x := tolerance)
  rw [← Bool.not_eq_true, BitVec.slt_iff_toInt_lt, not_lt, abs_le]
  split
  · next earlier =>
    rw [BitVec.slt_iff_toInt_lt] at earlier
    rw [BitVec.toInt_sub, Int.bmod_def]
    omega
  · next later =>
    rw [BitVec.slt_iff_toInt_lt] at later
    rw [BitVec.toInt_sub, Int.bmod_def]
    omega

private theorem validate_timestamped {library : Library} {tolerance now : BitVec 64} {password secret rawData : String}
    (clock : 0 ≤ now.toInt) (tolerant : 0 ≤ tolerance.toInt) :
    validate library .hmacSha256Ts tolerance now password secret rawData = true ↔
      '.' ∈ rawData.toList ∧ Fresh tolerance.toInt now.toInt (sent library rawData) ∧
        library.sign secret rawData = password := by
  have fresh := @fresh_iff tolerance now (millisecondsToNanoseconds (library.fromChars (stamp rawData))) clock tolerant
  rw [toInt_millisecondsToNanoseconds] at fresh
  unfold validate timestamp
  by_cases period : '.' ∈ rawData.toList
  · rw [Fresh, ← fresh]
    simp [period, stamp]
  · simp [period]

/-- The time does not wrap, nor does its difference to the clock; or what it wraps to is
refused as well; or it is too large for the clock to reach, but not for the tolerance. -/
def Faithful (tolerance now time : Int) : Prop :=
  -2 ^ 63 ≤ time ∧ time < 2 ^ 63 ∧ now - 2 ^ 63 < time ∨
    now - 2 ^ 63 < seen time ∧ (seen time < now - tolerance ∨ now + tolerance < seen time) ∨
    2 ^ 63 ≤ time ∧ time ≤ now + tolerance

private theorem fresh_faithful_iff {tolerance now time : Int} (clock : 0 ≤ now) (clockFits : now < 2 ^ 63)
    (tolerant : 0 ≤ tolerance) (toleranceFits : tolerance < 2 ^ 63) :
    (Fresh tolerance now time → |time - now| ≤ tolerance) ↔ Faithful tolerance now time := by
  unfold Fresh Faithful seen
  rw [abs_le, abs_le, Int.bmod_def]
  omega

/-- A password is accepted only within the tolerance, and with the right signature, if and
only if the time that was sent is one that the arithmetic is faithful to. -/
theorem timestamp_bounded_iff (library : Library) {tolerance now : BitVec 64} (password secret rawData : String)
    (clock : 0 ≤ now.toInt) (tolerant : 0 ≤ tolerance.toInt) :
    (validate library .hmacSha256Ts tolerance now password secret rawData = true →
      '.' ∈ rawData.toList ∧ |sent library rawData - now.toInt| ≤ tolerance.toInt ∧
        password = library.sign secret rawData) ↔
      ('.' ∈ rawData.toList → library.sign secret rawData = password →
        Faithful tolerance.toInt now.toInt (sent library rawData)) := by
  have clockFits : now.toInt < 2 ^ 63 := BitVec.toInt_lt
  have toleranceFits : tolerance.toInt < 2 ^ 63 := BitVec.toInt_lt
  rw [validate_timestamped clock tolerant]
  constructor
  · intro bounded period signed
    refine (fresh_faithful_iff clock clockFits tolerant toleranceFits).mp fun fresh => ?_
    exact (bounded ⟨period, fresh, signed⟩).2.1
  · rintro faithful ⟨period, fresh, signed⟩
    refine ⟨period, ?_, signed.symm⟩
    exact (fresh_faithful_iff clock clockFits tolerant toleranceFits).mpr (faithful period signed) fresh

def knows (text : String) (count : Nat) : Library where
  sign _ _ := "signature"
  fromChars other := if other = text then BitVec.ofNat 64 count else 0

theorem timestamp_bounded_iff_now : '.' ∈ "1700000000000.nonce".toList ∧
    |sent (knows "1700000000000" 1700000000000) "1700000000000.nonce" - (1700000000000000000#64).toInt| ≤
      (1000000000#64).toInt := by
  have bounded := (@timestamp_bounded_iff (knows "1700000000000" 1700000000000) 1000000000#64 1700000000000000000#64
    "signature" "secret" "1700000000000.nonce" (by decide) (by decide)).mpr
    (fun _ _ => Or.inl (by decide +kernel)) (by decide +kernel)
  exact ⟨bounded.1, bounded.2.1⟩

/-- 2 ^ 58 milliseconds later is the same time to the arithmetic. -/
theorem timestamp_wraps : validate (knows "288232076151711744" 288232076151711744) .hmacSha256Ts 0#64
      1700000000000000000#64 "signature" "secret" "288232076151711744.nonce" = true ∧
    ¬ |sent (knows "288232076151711744" 288232076151711744) "288232076151711744.nonce" -
      (1700000000000000000#64).toInt| ≤ (0#64).toInt := by
  decide +kernel

end FixProxy.Crypto
