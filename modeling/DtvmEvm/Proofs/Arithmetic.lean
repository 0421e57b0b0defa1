import DtvmEvm.Proofs.Codec
import DtvmEvm.Proofs.Effects

/-!
# `DtvmEvm.Proofs.Arithmetic`: `addmod`, `mulmod` and `expmod` over the full word range

The trait's default `addmod`, `mulmod` and `expmod` decode their operands with
`from_bytes_be`, compute on `BigUint`, and encode the result with `bigint_to_bytes32`.
`BigUint` does not overflow, so the 257-bit sum and the 512-bit product reach the reduction
whole; the result is below the modulus, hence below `2 ^ 256`, so the encoding keeps it
(`fromBytesBE_bigintToBytes32_of_lt`) and never takes its truncating branch.

`expmod` first runs a ladder of special cases (modulus `0`, modulus `1`, exponent `0`,
base `0`) and only then `BigUint::modpow`; every rung agrees with `b ^ e % m`, with
`0 ^ 0 = 1` (`expmodLadder_eq`).

`math::addmod`, `math::mulmod` and `math::expmod` share `modPrimitive`: they read three
words and write the host's result at the result offset (`modPrimitive_ok`). Read back,
the 32 bytes there hold the number the law gives for the words read before the write, also
when the result range overlaps an operand.

The main results:

* `addmod_mulmod_exact`: the value of `addmod` and `mulmod` for all operands, the padding
  branch of the encoding, and the word `math::addmod` and `math::mulmod` leave at the result
  offset;
* `expmod_is_modular_power`: the value of `expmod`, and the word `math::expmod` leaves.
-/

set_option autoImplicit false

namespace DtvmEvm

/-- The number in the 32 bytes at `offset`, as `from_bytes_be` reads a word there. -/
def wordValueAt (bytes : List UInt8) (offset : Nat) : Nat :=
  fromBytesBE ((bytes.drop offset).take 32)

/-! ### The trait's defaults -/

/-- A remainder modulo a word, or zero for a zero modulus, is below `2 ^ 256`. -/
theorem modResult_lt (r : Nat) (n : Word) :
    (if fromBytesBE n.bytes = 0 then 0 else r % fromBytesBE n.bytes) < 2 ^ 256 := by
  split
  · exact Nat.two_pow_pos 256
  · exact (Nat.mod_lt _ (Nat.pos_of_ne_zero ‹_›)).trans (fromBytesBE_word_lt n)

theorem defaultAddmod_value (a b n : Word) :
    fromBytesBE (defaultAddmod a b n).bytes = if fromBytesBE n.bytes = 0 then 0
      else (fromBytesBE a.bytes + fromBytesBE b.bytes) % fromBytesBE n.bytes :=
  fromBytesBE_bigintToBytes32_of_lt (modResult_lt _ n)

theorem defaultMulmod_value (a b n : Word) :
    fromBytesBE (defaultMulmod a b n).bytes = if fromBytesBE n.bytes = 0 then 0
      else (fromBytesBE a.bytes * fromBytesBE b.bytes) % fromBytesBE n.bytes :=
  fromBytesBE_bigintToBytes32_of_lt (modResult_lt _ n)

/-- The special cases of `EvmHost::expmod` agree with `modpow` and with each other: for a
modulus `m > 0`, `b ^ e % m` is `0` for `m = 1`, `1` for `e = 0`, and `0` for `b = 0 < e`. -/
theorem expmodLadder_eq (b e m : Nat) :
    (if m = 0 then 0 else if m = 1 then 0 else if e = 0 then 1 else if b = 0 then 0
      else b ^ e % m) = if m = 0 then 0 else b ^ e % m := by
  by_cases hm : m = 0
  · simp [hm]
  by_cases hm1 : m = 1
  · simp [hm1, Nat.mod_one]
  by_cases he : e = 0
  · simp [hm, hm1, he, Nat.mod_eq_of_lt (show 1 < m by omega)]
  by_cases hb : b = 0
  · simp [hm, hm1, he, hb, Nat.zero_pow (Nat.pos_of_ne_zero he)]
  simp [hm, hm1, he, hb]

theorem defaultExpmod_value (b e m : Word) :
    fromBytesBE (defaultExpmod b e m).bytes = if fromBytesBE m.bytes = 0 then 0
      else fromBytesBE b.bytes ^ fromBytesBE e.bytes % fromBytesBE m.bytes := by
  unfold defaultExpmod
  dsimp only
  rw [expmodLadder_eq]
  exact fromBytesBE_bigintToBytes32_of_lt (modResult_lt _ m)

/-! ### The primitives -/

namespace HostFunctions

open HostFn MemoryAccessor

variable {σ : Type} {s s' : Instance σ}

/-- A successful `addmod`, `mulmod` or `expmod` read three words and wrote the host's result
at the result offset, on a valid range. -/
theorem modPrimitive_ok {op : σ → Word → Word → Word → Word}
    {aOffset bOffset nOffset resultOffset : BitVec 32}
    (h : modPrimitive op aOffset bOffset nOffset resultOffset s = .ok () s') :
    ∃ a b n : Word, a.bytes = (s.memory.bytes.drop aOffset.toNat).take 32 ∧
      b.bytes = (s.memory.bytes.drop bOffset.toNat).take 32 ∧
      n.bytes = (s.memory.bytes.drop nOffset.toNat).take 32 ∧
      s.memory.validateWasmAddr resultOffset.toNat 32 = true ∧
      s' = { s with
        memory := s.memory.overwrite resultOffset.toNat (op s.extraCtx a b n).bytes } := by
  obtain ⟨-, ha, h⟩ := validateOffsetForType_bind_ok h
  obtain ⟨-, hb, h⟩ := validateOffsetForType_bind_ok h
  obtain ⟨-, hn, h⟩ := validateOffsetForType_bind_ok h
  obtain ⟨-, hr, h⟩ := validateOffsetForType_bind_ok h
  simp only [readBytes32, bind_of_ok (readFixed_of_valid _ ha),
    bind_of_ok (readFixed_of_valid _ hb), bind_of_ok (readFixed_of_valid _ hn), hostState_bind,
    writeBytes32,
    writeBytes_fixed_apply _ _ _ (by decide) hr] at h
  cases h
  exact ⟨_, _, _, rfl, rfl, rfl, hr, rfl⟩

/-- What a successful modular primitive leaves at the result offset: the number of the word
the host computed from the three words read before the write. -/
theorem modPrimitive_value {op : σ → Word → Word → Word → Word}
    {aOffset bOffset nOffset resultOffset : BitVec 32}
    (h : modPrimitive op aOffset bOffset nOffset resultOffset s = .ok () s') :
    ∃ a b n : Word, fromBytesBE a.bytes = wordValueAt s.memory.bytes aOffset.toNat ∧
      fromBytesBE b.bytes = wordValueAt s.memory.bytes bOffset.toNat ∧
      fromBytesBE n.bytes = wordValueAt s.memory.bytes nOffset.toNat ∧
      wordValueAt s'.memory.bytes resultOffset.toNat = fromBytesBE (op s.extraCtx a b n).bytes := by
  obtain ⟨a, b, n, ha, hb, hn, hr, rfl⟩ := modPrimitive_ok h
  refine ⟨a, b, n, by rw [ha]; rfl, by rw [hb]; rfl, by rw [hn]; rfl, ?_⟩
  have hin := s.memory.validate_sound _ _ hr
  have hback := @take_drop_overwrite s.memory.bytes (op s.extraCtx a b n).bytes resultOffset.toNat
    (by rw [FixedBytes.length_eq]; exact hin)
  rw [FixedBytes.length_eq] at hback
  exact congrArg fromBytesBE hback

end HostFunctions

/-- `addmod` and `mulmod` over all 32-byte operands: the value of the result is
`(a + b) % n` and `(a * b) % n`, or `0` for `n = 0`, so the sum and the product are reduced
whole; the result has at most 32 bytes, so `bigint_to_bytes32` pads it and does not cut it;
and a successful `math::addmod` or `math::mulmod`, on a host with the trait's default
method, leaves at the result offset the word of that value for the words it read. -/
theorem addmod_mulmod_exact :
    (∀ a b n : Word, fromBytesBE (defaultAddmod a b n).bytes = if fromBytesBE n.bytes = 0 then 0
      else (fromBytesBE a.bytes + fromBytesBE b.bytes) % fromBytesBE n.bytes) ∧
    (∀ a b n : Word, fromBytesBE (defaultMulmod a b n).bytes = if fromBytesBE n.bytes = 0 then 0
      else (fromBytesBE a.bytes * fromBytesBE b.bytes) % fromBytesBE n.bytes) ∧
    (∀ a b n : Word,
      (toBytesBE (if fromBytesBE n.bytes = 0 then 0
        else (fromBytesBE a.bytes + fromBytesBE b.bytes) % fromBytesBE n.bytes)).length ≤ 32 ∧
      (toBytesBE (if fromBytesBE n.bytes = 0 then 0
        else (fromBytesBE a.bytes * fromBytesBE b.bytes) % fromBytesBE n.bytes)).length ≤ 32) ∧
    (∀ (σ : Type) (host : EvmHost σ), host.addmod = (fun _ => defaultAddmod) →
      ∀ (aOffset bOffset nOffset resultOffset : BitVec 32) (s s' : Instance σ),
      HostFunctions.addmod host aOffset bOffset nOffset resultOffset s = .ok () s' →
      wordValueAt s'.memory.bytes resultOffset.toNat =
        if wordValueAt s.memory.bytes nOffset.toNat = 0 then 0
        else (wordValueAt s.memory.bytes aOffset.toNat + wordValueAt s.memory.bytes bOffset.toNat) %
          wordValueAt s.memory.bytes nOffset.toNat) ∧
    (∀ (σ : Type) (host : EvmHost σ), host.mulmod = (fun _ => defaultMulmod) →
      ∀ (aOffset bOffset nOffset resultOffset : BitVec 32) (s s' : Instance σ),
      HostFunctions.mulmod host aOffset bOffset nOffset resultOffset s = .ok () s' →
      wordValueAt s'.memory.bytes resultOffset.toNat =
        if wordValueAt s.memory.bytes nOffset.toNat = 0 then 0
        else (wordValueAt s.memory.bytes aOffset.toNat * wordValueAt s.memory.bytes bOffset.toNat) %
          wordValueAt s.memory.bytes nOffset.toNat) := by
  have hpow : (2 : Nat) ^ 256 = 256 ^ 32 := by norm_num
  refine ⟨defaultAddmod_value, defaultMulmod_value, fun a b n => ⟨?_, ?_⟩, ?_, ?_⟩
  · exact length_toBytesBE_le (by norm_num) (hpow ▸ modResult_lt _ n)
  · exact length_toBytesBE_le (by norm_num) (hpow ▸ modResult_lt _ n)
  · intro σ host hop _ _ _ _ s s' h
    obtain ⟨a, b, n, ha, hb, hn, hr⟩ := HostFunctions.modPrimitive_value h
    rw [hr, hop, defaultAddmod_value, ha, hb, hn]
  · intro σ host hop _ _ _ _ s s' h
    obtain ⟨a, b, n, ha, hb, hn, hr⟩ := HostFunctions.modPrimitive_value h
    rw [hr, hop, defaultMulmod_value, ha, hb, hn]

/-- `expmod` over all 32-byte operands is modular exponentiation, `0` for a zero modulus and
`0 ^ 0 = 1`, so the special cases agree with `modpow` on every input; a successful
`math::expmod`, on a host with the trait's default method, leaves at the result offset the
word of that value for the words it read. -/
theorem expmod_is_modular_power :
    (∀ b e m : Word, fromBytesBE (defaultExpmod b e m).bytes = if fromBytesBE m.bytes = 0 then 0
      else fromBytesBE b.bytes ^ fromBytesBE e.bytes % fromBytesBE m.bytes) ∧
    (∀ (σ : Type) (host : EvmHost σ), host.expmod = (fun _ => defaultExpmod) →
      ∀ (baseOffset expOffset modOffset resultOffset : BitVec 32) (s s' : Instance σ),
      HostFunctions.expmod host baseOffset expOffset modOffset resultOffset s = .ok () s' →
      wordValueAt s'.memory.bytes resultOffset.toNat =
        if wordValueAt s.memory.bytes modOffset.toNat = 0 then 0
        else wordValueAt s.memory.bytes baseOffset.toNat ^ wordValueAt s.memory.bytes expOffset.toNat %
          wordValueAt s.memory.bytes modOffset.toNat) := by
  refine ⟨defaultExpmod_value, fun σ host hop _ _ _ _ s s' h => ?_⟩
  obtain ⟨b, e, m, hb, he, hm, hr⟩ := HostFunctions.modPrimitive_value h
  rw [hr, hop, defaultExpmod_value, hb, he, hm]

end DtvmEvm
