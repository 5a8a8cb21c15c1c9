import Conformance.Proofs.Descriptors
import Mathlib.Algebra.Ring.Int.Defs
import Mathlib.Algebra.Ring.Nat

/-!
# Modifiers that are integers

A set of modifiers may be given as any integer. Of a negative one, a power of two is added that is
above its bits and a multiple of 128 (`Modifiers.bits_ofInt_mod`), so its low seven bits are those of
its two's complement. No modifier has a higher bit. Integers that agree modulo 128 therefore have the
same modifiers (`Modifiers.contains_ofInt_eq`), and the descriptors built from them are refused alike
or say the same of a method.
-/

namespace Conformance

/-! ### Low bits of an integer -/

namespace Modifiers

variable {ms ns : Modifiers} {n m : Int}

theorem lt_two_pow_bitLength (k : Nat) : k < 2 ^ bitLength k := by
  unfold bitLength
  split
  · next h => simp [h]
  · exact Nat.lt_log2_self

/-- What is added to a negative integer is a multiple of 128 and not less than it. -/
theorem exists_mul_of_bitLength (k : Nat) :
    ∃ q, max 128 (1 <<< bitLength k) = 128 * q ∧ k ≤ 128 * q := by
  rw [Nat.one_shiftLeft]
  have hk := lt_two_pow_bitLength k
  by_cases hlen : bitLength k < 7
  · have hpow : 2 ^ bitLength k < 2 ^ 7 := Nat.pow_lt_pow_right (by omega) hlen
    exact ⟨1, by omega, by omega⟩
  · have hpow : 2 ^ bitLength k = 128 * 2 ^ (bitLength k - 7) := by
      rw [show 128 = 2 ^ 7 from rfl, ← Nat.pow_add]
      congr 1
      omega
    have hpos : 0 < 2 ^ (bitLength k - 7) := Nat.two_pow_pos _
    exact ⟨2 ^ (bitLength k - 7), by omega, by omega⟩

/-- The low seven bits are those of the integer. -/
theorem bits_ofInt_mod (n : Int) : ((ofInt n).bits : Int) % 128 = n % 128 := by
  cases n with
  | ofNat k => rfl
  | negSucc k =>
    obtain ⟨q, hq, hle⟩ := exists_mul_of_bitLength (k + 1)
    rw [ofInt, hq, Int.negSucc_eq]
    dsimp only
    omega

theorem index_lt_seven (k : Modifier) : k.index < 7 := by cases k <;> decide

/-- Sets of modifiers with the same low bits have the same members. -/
theorem contains_eq_of_bits_mod (h : ms.bits % 128 = ns.bits % 128) (k : Modifier) :
    ms.contains k = ns.contains k := by
  have hlow (x : Nat) : x.testBit k.index = (x % 2 ^ 7).testBit k.index := by
    rw [Nat.testBit_mod_two_pow, decide_eq_true (index_lt_seven k), Bool.true_and]
  rw [contains, contains, hlow, hlow ns.bits]
  exact congrArg (Nat.testBit · k.index) h

theorem contains_ofInt_eq (h : n % 128 = m % 128) (k : Modifier) :
    (ofInt n).contains k = (ofInt m).contains k := by
  refine contains_eq_of_bits_mod ?_ k
  have hn := bits_ofInt_mod n
  have hm := bits_ofInt_mod m
  omega

/-- There is one visibility if and only if one of the low three bits is set. -/
theorem length_visibilities_ofInt_iff :
    (ofInt n).visibilities.length = 1 ↔ n % 8 = 1 ∨ n % 8 = 2 ∨ n % 8 = 4 := by
  obtain ⟨r, hr, hn⟩ : ∃ r < 8, n % 8 = ((r : Nat) : Int) := ⟨(n % 8).toNat, by omega, by omega⟩
  have hbit (v : Visibility) : (ofInt n).contains v.modifier = r.testBit v.modifier.index := by
    have hv : v.modifier.index < 3 := by cases v <;> decide
    have hmod : (ofInt n).bits % 2 ^ 3 = r := by
      have h := bits_ofInt_mod n
      omega
    rw [contains, ← hmod, Nat.testBit_mod_two_pow, decide_eq_true hv, Bool.true_and]
  have htable : ∀ r < 8, (Visibility.all.filter fun v => r.testBit v.modifier.index).length = 1 ↔
      r = 1 ∨ r = 2 ∨ r = 4 := by decide
  rw [visibilities]
  simp only [hbit]
  rw [htable r hr, hn]
  omega

section SameMembers

variable (h : ∀ k, ms.contains k = ns.contains k)
include h

theorem visibilities_congr : ms.visibilities = ns.visibilities := by simp only [visibilities, h]

theorem words_congr : ms.words = ns.words := by simp only [words, visibility, h]

end SameMembers

end Modifiers

/-! ### Descriptors built from integers -/

namespace Descriptor

variable {name : String} {ms ns : Modifiers} {d d' : Descriptor}

theorem build_str : build (.str name) (.modifiers ms) = ofModifiers name ms := by
  by_cases hn : name = "" <;> simp [build, ofModifiers, Value.isTruthy, hn]

/-- A descriptor is built if there are a name and one visibility. -/
theorem exists_ofModifiers_iff :
    (∃ d, ofModifiers name ms = .ok d) ↔ name ≠ "" ∧ ms.visibilities.length = 1 := by
  by_cases hn : name = "" <;> by_cases hv : ms.visibilities.length = 1 <;> simp [ofModifiers, hn, hv]

theorem of_ofModifiers (h : ofModifiers name ms = .ok d) : d.name = name ∧ d.modifiers = ms := by
  rw [ofModifiers] at h
  split_ifs at h
  obtain rfl := Except.ok.inj h
  exact ⟨rfl, rfl⟩

/-- Sets of modifiers with the same members are refused for the same reason. -/
theorem ofModifiers_eq_error_iff (h : ∀ k, ms.contains k = ns.contains k) {e : Fault} :
    ofModifiers name ms = .error e ↔ ofModifiers name ns = .error e := by
  have hv := Modifiers.visibilities_congr h
  by_cases hn : name = "" <;> by_cases hlen : ns.visibilities.length = 1 <;>
    simp [ofModifiers, hn, hv, hlen]

/-- **Only the low seven bits of an integer matter.** Integers that agree modulo 128, of any sign and
with any other bits, are refused as the modifiers of a method for the same reason, or else both are
accepted: those with one of the low three bits set, if the method has a name. The descriptors then
have the same modifiers, visibility and text, and every specification accepts both or none. -/
theorem build_of_mod_eq (name : String) (n m : Int) (h : n % 128 = m % 128) :
    (name ≠ "" → ((∃ d, build (.str name) (.modifiers (.ofInt n)) = .ok d) ↔
      n % 8 = 1 ∨ n % 8 = 2 ∨ n % 8 = 4)) ∧
    (∀ e, build (.str name) (.modifiers (.ofInt n)) = .error e ↔
      build (.str name) (.modifiers (.ofInt m)) = .error e) ∧
    ∀ d d', build (.str name) (.modifiers (.ofInt n)) = .ok d →
      build (.str name) (.modifiers (.ofInt m)) = .ok d' →
      (∀ k, d.has k = d'.has k) ∧ d.visibility = d'.visibility ∧ d.text = d'.text ∧
        ∀ s : Spec, s.accepts d = s.accepts d' := by
  have hmembers := Modifiers.contains_ofInt_eq h
  simp only [build_str]
  refine ⟨fun hn => ?_, fun e => ofModifiers_eq_error_iff hmembers, fun d d' hd hd' => ?_⟩
  · rw [exists_ofModifiers_iff, Modifiers.length_visibilities_ofInt_iff]
    exact and_iff_right hn
  · obtain ⟨hname, hms⟩ := of_ofModifiers hd
    obtain ⟨hname', hms'⟩ := of_ofModifiers hd'
    have hhas (k : Modifier) : d.modifiers.contains k = d'.modifiers.contains k := by
      rw [hms, hms', hmembers]
    have hwords := Modifiers.words_congr hhas
    have hnames : d.name = d'.name := hname.trans hname'.symm
    exact ⟨hhas, Modifiers.visibility_eq_of_words_eq hwords, by rw [text, text, hwords, hnames],
      fun s => Spec.accepts_congr hnames hwords⟩

/-- A negative integer, and a huge one with bits that no modifier has: both are a protected static
method. -/
theorem build_of_mod_eq_protected :
    (-110 : Int) % 128 = (2 ^ 100 + 18) % 128 ∧
    ∃ d d', build (.str "foo") (.modifiers (.ofInt (-110))) = .ok d ∧
      build (.str "foo") (.modifiers (.ofInt (2 ^ 100 + 18))) = .ok d' ∧
      d.text = "protected static method foo" ∧ d'.text = d.text := by
  have hmod : (-110 : Int) % 128 = (2 ^ 100 + 18) % 128 := by decide
  obtain ⟨haccepted, -, hsame⟩ := build_of_mod_eq "foo" (-110) (2 ^ 100 + 18) hmod
  obtain ⟨haccepted', -, -⟩ := build_of_mod_eq "foo" (2 ^ 100 + 18) (-110) hmod.symm
  obtain ⟨d, hd⟩ := (haccepted (by decide)).mpr (by decide)
  obtain ⟨d', hd'⟩ := (haccepted' (by decide)).mpr (by decide)
  obtain ⟨hname, hms⟩ := of_ofModifiers (build_str ▸ hd)
  have htext : d.text = "protected static method foo" := by
    rw [text, hname, hms]
    decide
  exact ⟨hmod, d, d', hd, hd', htext, (hsame d d' hd hd').2.2.1.symm⟩

end Descriptor

end Conformance
