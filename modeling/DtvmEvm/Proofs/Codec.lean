import DtvmEvm.Host
import Mathlib.Tactic.Ring

/-!
# `DtvmEvm.Proofs.Codec`: the word codec of `traits.rs`

The modular primitives cross between bytes and numbers twice: `BigUint::from_bytes_be`
(`fromBytesBE`) reads a word as a big-endian number, and `bigint_to_bytes32`
(`bigintToBytes32`) writes a number back into a word, from the bytes of `to_bytes_be`
(`toBytesBE`), zero-padded on the left or cut to their last 32.

`fromBytesBE` is a left fold; shifted past any accumulator it splits over an append
(`fromBytesBE_append`), which gives its bound (`fromBytesBE_lt`) and its injectivity on
byte lists of one length (`fromBytesBE_injective`). `toBytesBE` is the reversed base-256
digits of Mathlib's `Nat.digits`, so the decoder inverts it (`fromBytesBE_toBytesBE`).

The main results:

* `bigintToBytes32_round_trip`: the codec loses nothing below `2 ^ 256`: encoding keeps a
  number modulo `2 ^ 256`, in both branches of `bigint_to_bytes32`, and decoding a word and
  encoding it again gives the word back;
* `fromBytesBE_bigintToBytes32_of_lt`: a number below `2 ^ 256` is encoded exactly;
* `length_toBytesBE_le`: such a number has at most 32 bytes, so `bigint_to_bytes32` takes its
  padding branch.
-/

set_option autoImplicit false

namespace DtvmEvm

/-! ### Decoding -/

/-- The fold of `from_bytes_be` from any accumulator: the accumulator shifted past the
bytes, plus their value. -/
theorem foldl_fromBytesBE (l : List UInt8) (acc : Nat) :
    l.foldl (fun acc b => acc * 256 + b.toNat) acc = acc * 256 ^ l.length + fromBytesBE l := by
  induction l generalizing acc with
  | nil => simp [fromBytesBE]
  | cons b l ih =>
    have hcons : fromBytesBE (b :: l) = (0 * 256 + b.toNat) * 256 ^ l.length + fromBytesBE l :=
      ih _
    rw [List.foldl_cons, ih, hcons, List.length_cons]
    ring

@[simp] theorem fromBytesBE_nil : fromBytesBE [] = 0 := rfl

theorem fromBytesBE_cons (b : UInt8) (l : List UInt8) :
    fromBytesBE (b :: l) = b.toNat * 256 ^ l.length + fromBytesBE l := by
  rw [fromBytesBE, List.foldl_cons, foldl_fromBytesBE, Nat.zero_mul, Nat.zero_add]

theorem fromBytesBE_append (l₁ l₂ : List UInt8) :
    fromBytesBE (l₁ ++ l₂) = fromBytesBE l₁ * 256 ^ l₂.length + fromBytesBE l₂ := by
  rw [fromBytesBE, List.foldl_append, foldl_fromBytesBE]
  rfl

/-- Leading zero bytes do not change the value. -/
@[simp] theorem fromBytesBE_replicate_zero_append (k : Nat) (l : List UInt8) :
    fromBytesBE (List.replicate k 0 ++ l) = fromBytesBE l := by
  induction k with
  | zero => rfl
  | succ k ih =>
    rw [List.replicate_succ, List.cons_append, fromBytesBE_cons, ih]
    simp

/-- `n` bytes hold a number below `256 ^ n`. -/
theorem fromBytesBE_lt (l : List UInt8) : fromBytesBE l < 256 ^ l.length := by
  induction l with
  | nil => simp
  | cons b l ih =>
    have hb : b.toNat < 256 := b.toNat_lt_size
    calc fromBytesBE (b :: l)
        = b.toNat * 256 ^ l.length + fromBytesBE l := fromBytesBE_cons b l
      _ < (b.toNat + 1) * 256 ^ l.length := by rw [Nat.succ_mul]; omega
      _ ≤ 256 * 256 ^ l.length := Nat.mul_le_mul_right _ hb
      _ = 256 ^ (b :: l).length := by rw [List.length_cons, Nat.pow_succ, Nat.mul_comm]

/-- A word holds a number below `2 ^ 256`. -/
theorem fromBytesBE_word_lt (w : Word) : fromBytesBE w.bytes < 2 ^ 256 := by
  have h := fromBytesBE_lt w.bytes
  rwa [w.length_eq, show (256 : Nat) ^ 32 = 2 ^ 256 by norm_num] at h

/-- Byte lists of one length with one value are equal: the leading byte is the quotient by
`256 ^ (length - 1)`, the rest the remainder. -/
theorem fromBytesBE_injective {l₁ l₂ : List UInt8} (hl : l₁.length = l₂.length)
    (h : fromBytesBE l₁ = fromBytesBE l₂) : l₁ = l₂ := by
  induction l₁ generalizing l₂ with
  | nil => exact (List.length_eq_zero.mp hl.symm).symm
  | cons b₁ l₁ ih =>
    obtain _ | ⟨b₂, l₂⟩ := l₂
    · cases hl
    have hlen : l₁.length = l₂.length := Nat.succ.inj hl
    have hpos : 0 < 256 ^ l₂.length := Nat.pos_pow_of_pos _ (by norm_num)
    have hsplit : ∀ (b : UInt8) (l : List UInt8), l.length = l₂.length →
        fromBytesBE (b :: l) / 256 ^ l₂.length = b.toNat ∧
          fromBytesBE (b :: l) % 256 ^ l₂.length = fromBytesBE l := fun b l hl' =>
      (Nat.div_mod_unique hpos).mpr
        ⟨by rw [fromBytesBE_cons, hl']; ring, hl' ▸ fromBytesBE_lt l⟩
    obtain ⟨hd₁, hm₁⟩ := hsplit b₁ l₁ hlen
    obtain ⟨hd₂, hm₂⟩ := hsplit b₂ l₂ rfl
    rw [h] at hd₁ hm₁
    rw [UInt8.toNat.inj (hd₁.symm.trans hd₂), ih hlen (hm₁.symm.trans hm₂)]

/-! ### Encoding -/

/-- Reversed little-endian digits below `256` read back as their `Nat.ofDigits`. -/
theorem fromBytesBE_map_reverse {ds : List Nat} (hds : ∀ d ∈ ds, d < 256) :
    fromBytesBE (ds.map UInt8.ofNat).reverse = Nat.ofDigits 256 ds := by
  induction ds with
  | nil => rfl
  | cons d ds ih =>
    have hd : (UInt8.ofNat d).toNat = d := UInt8.toNat_ofNat_of_lt (hds d (.head _))
    rw [List.map_cons, List.reverse_cons, fromBytesBE_append,
      ih fun x hx => hds x (.tail _ hx), Nat.ofDigits_cons]
    simp only [fromBytesBE, List.foldl_cons, List.foldl_nil, List.length_singleton, hd]
    ring

/-- `from_bytes_be` inverts `to_bytes_be`. -/
theorem fromBytesBE_toBytesBE (n : Nat) : fromBytesBE (toBytesBE n) = n := by
  unfold toBytesBE
  split
  · subst n; rfl
  · rw [fromBytesBE_map_reverse fun d hd => Nat.digits_lt_base (by norm_num) hd,
      Nat.ofDigits_digits]

/-- A number below `256 ^ k`, for `k ≥ 1`, has at most `k` bytes. -/
theorem length_toBytesBE_le {n k : Nat} (hk : 0 < k) (hn : n < 256 ^ k) :
    (toBytesBE n).length ≤ k := by
  unfold toBytesBE
  split
  · exact hk
  · rename_i hn0
    rw [List.length_reverse, List.length_map]
    have hdigits := Nat.base_pow_length_digits_le 256 n (by norm_num) hn0
    have hlt : 256 ^ (Nat.digits 256 n).length < 256 ^ (k + 1) :=
      calc 256 ^ (Nat.digits 256 n).length ≤ 256 * n := hdigits
        _ < 256 * 256 ^ k := by omega
        _ = 256 ^ (k + 1) := by rw [Nat.pow_succ, Nat.mul_comm]
    have := (Nat.pow_lt_pow_iff_right (by norm_num)).mp hlt
    omega

/-- `bigint_to_bytes32` keeps its argument modulo `2 ^ 256`: the padding branch keeps the
number, and the truncating branch keeps its last 32 bytes, which are the remainder. -/
theorem fromBytesBE_bigintToBytes32 (v : Nat) :
    fromBytesBE (bigintToBytes32 v).bytes = v % 2 ^ 256 := by
  rw [show (2 : Nat) ^ 256 = 256 ^ 32 by norm_num]
  unfold bigintToBytes32
  dsimp only
  split
  · -- more than 32 bytes: the last 32 are the value modulo `256 ^ 32`
    rename_i hlong
    have hsplit := fromBytesBE_append ((toBytesBE v).take ((toBytesBE v).length - 32))
      ((toBytesBE v).drop ((toBytesBE v).length - 32))
    rw [List.take_append_drop, fromBytesBE_toBytesBE, List.length_drop,
      show (toBytesBE v).length - ((toBytesBE v).length - 32) = 32 by omega] at hsplit
    have hlast := fromBytesBE_lt ((toBytesBE v).drop ((toBytesBE v).length - 32))
    rw [List.length_drop, show (toBytesBE v).length - ((toBytesBE v).length - 32) = 32 by omega]
      at hlast
    show fromBytesBE ((toBytesBE v).drop _) = _
    conv_rhs => rw [hsplit]
    rw [Nat.add_comm, Nat.add_mul_mod_self_right, Nat.mod_eq_of_lt hlast]
  · -- at most 32 bytes: zero-padded, and below `256 ^ 32`
    rename_i hshort
    show fromBytesBE (List.replicate _ 0 ++ toBytesBE v) = _
    rw [fromBytesBE_replicate_zero_append, fromBytesBE_toBytesBE, Nat.mod_eq_of_lt]
    calc v = fromBytesBE (toBytesBE v) := (fromBytesBE_toBytesBE v).symm
      _ < 256 ^ (toBytesBE v).length := fromBytesBE_lt _
      _ ≤ 256 ^ 32 := Nat.pow_le_pow_right (by norm_num) (by omega)

/-- A number below `2 ^ 256` goes through `bigint_to_bytes32` unchanged. -/
theorem fromBytesBE_bigintToBytes32_of_lt {v : Nat} (hv : v < 2 ^ 256) :
    fromBytesBE (bigintToBytes32 v).bytes = v := by
  rw [fromBytesBE_bigintToBytes32, Nat.mod_eq_of_lt hv]

/-- The codec round trip: `from_bytes_be(bigint_to_bytes32(v)) = v mod 2 ^ 256` for every
number, and `bigint_to_bytes32(from_bytes_be(w)) = w` for every word. -/
theorem bigintToBytes32_round_trip :
    (∀ v : Nat, fromBytesBE (bigintToBytes32 v).bytes = v % 2 ^ 256) ∧
    (∀ w : Word, bigintToBytes32 (fromBytesBE w.bytes) = w) :=
  ⟨fromBytesBE_bigintToBytes32, fun w => FixedBytes.ext <|
    fromBytesBE_injective (by rw [FixedBytes.length_eq, w.length_eq])
      (fromBytesBE_bigintToBytes32_of_lt (fromBytesBE_word_lt w))⟩

end DtvmEvm
