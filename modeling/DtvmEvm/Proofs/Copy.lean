import DtvmEvm.Proofs.Mock.Calls

/-!
# `DtvmEvm.Proofs.Copy`: what the copy primitives write

The four copy primitives take a destination `res`, a source offset `src` and a length
`len`, and all four build the same buffer, `copyBuffer`. Its code spells the count of source
bytes as a `min` of the bytes available from `src` and `len`; `copyBuffer_eq_take` says it is
the first `len` bytes of `source[src..]` followed by zeros.

The zero-fill rule, `zeroFilledCopy`, is the contract of the copy family: memory after the
copy is memory before with `[res, res + len)` replaced by the first `len` bytes of
`source[src..] ++ zeros`. `call_data_copy`, `return_data_copy` and `external_code_copy` keep
it (`callDataCopy_zeroFilled`, `returnDataCopy_zeroFilled`, `externalCodeCopy_zeroFilled`).
`code_copy` writes `buffer[..copied_bytes]`, which is `source[src..]` cut at `len` with no
zero tail (`codeCopy_ok`), so past the end of the code the destination keeps its old bytes.

The main results:

* `copyFrom_ok`, `codeCopy_ok`, `externalCodeCopy_ok`: what a successful copy established
  and wrote;
* `overwrite_copyBuffer`: a copy buffer written on a validated range is the zero-fill rule;
* `codeCopy_skips_zero_fill`: the rule for three of the primitives, the law of `code_copy`,
  and a copy of the scenario's code over a non-zero byte that the rule would have cleared.
-/

set_option autoImplicit false

namespace DtvmEvm

/-! ### The copy buffer -/

/-- `available_from_offset` of the copy primitives is the length of `source[offset..]`. -/
theorem availableFromOffset_eq (source : Bytes) (offset : Nat) :
    (if offset < source.length then source.length - offset else 0) =
      (source.drop offset).length := by
  rw [List.length_drop]; split <;> omega

/-- The buffer is the first `length` bytes of the source from `offset` on, then zeros. -/
theorem copyBuffer_eq_take (source : Bytes) (offset length : Nat) :
    copyBuffer source offset length =
      (source.drop offset ++ List.replicate length 0).take length := by
  rw [copyBuffer, availableFromOffset_eq, List.take_append_eq_append_take, List.take_replicate,
    min_comm, ← List.take_take, List.take_of_length_le (le_refl _)]
  congr 2
  omega

@[simp] theorem length_copyBuffer (source : Bytes) (offset length : Nat) :
    (copyBuffer source offset length).length = length := by
  simp [copyBuffer_eq_take]

theorem copyBuffer_nil (offset length : Nat) :
    copyBuffer [] offset length = List.replicate length 0 := by
  simp [copyBuffer]

/-- `buffer[..copied_bytes]` of `code_copy`: the source from `offset` on, cut at `length`. -/
theorem take_copyBuffer (source : Bytes) (offset length : Nat) :
    (copyBuffer source offset length).take
      (min (min length (if offset < source.length then source.length - offset else 0))
        (copyBuffer source offset length).length) = (source.drop offset).take length := by
  rw [length_copyBuffer, availableFromOffset_eq, copyBuffer_eq_take, List.take_take,
    List.take_append_eq_append_take]
  simp

/-! ### The zero-fill rule -/

/-- The zero-fill copy rule: `before` with the bytes `[res, res + len)` replaced by the first
`len` bytes of `source[src..]` followed by zeros, and every other byte unchanged. -/
def zeroFilledCopy (before source : Bytes) (res src len : Nat) : Bytes :=
  before.take res ++ (source.drop src ++ List.replicate len 0).take len ++ before.drop (res + len)

/-- A copy buffer written on a range the engine accepts is the zero-fill rule. -/
theorem overwrite_copyBuffer {m : Memory} {res len : Nat} (hv : m.validateWasmAddr res len = true)
    (source : Bytes) (src : Nat) :
    (m.overwrite res (copyBuffer source src len)).bytes =
      zeroFilledCopy m.bytes source res src len := by
  have hin : res + (copyBuffer source src len).length ≤ m.bytes.length := by
    simpa using m.validate_sound res len hv
  show overwrite m.bytes res _ = _
  rw [overwrite_eq_splice _ _ _ hin, length_copyBuffer, copyBuffer_eq_take]
  rfl

/-! ### The primitives -/

namespace HostFunctions

open HostFn MemoryAccessor

variable {σ : Type} (host : EvmHost σ) {s s' : Instance σ}

/-- A successful `call_data_copy` or `return_data_copy`: the source offset was not negative,
the destination range was valid, and the whole buffer was written there. -/
theorem copyFrom_ok {name negativeContext : String} {source : σ → Bytes}
    {resultOffset dataOffset length : BitVec 32}
    (h : copyFrom name negativeContext source resultOffset dataOffset length s = .ok () s') :
    0 ≤ dataOffset.toInt ∧ s.memory.validateWasmAddr resultOffset.toNat length.toNat = true ∧
      s' = { s with memory := (s.memory.overwrite resultOffset.toNat
        (copyBuffer (source s.extraCtx) dataOffset.toNat length.toNat)) } := by
  obtain ⟨-, -, hv, h⟩ := validateDataParam_bind_ok h
  dsimp only at h
  split at h
  · cases h
  simp only [pure_bind, hostState_bind,
    writeBytes_of_valid _ (length_copyBuffer _ _ _) length.isLt hv] at h
  cases h
  exact ⟨by omega, hv, rfl⟩

/-- A successful `code_copy` wrote the code from `codeOffset` on, cut at `length`, and
nothing past the end of the code. -/
theorem codeCopy_ok {resultOffset codeOffset length : BitVec 32}
    (h : codeCopy host resultOffset codeOffset length s = .ok () s') :
    0 ≤ codeOffset.toInt ∧ s.memory.validateWasmAddr resultOffset.toNat length.toNat = true ∧
      s' = { s with memory := (s.memory.overwrite resultOffset.toNat
        (((host.codeCopy s.extraCtx).drop codeOffset.toNat).take length.toNat)) } := by
  obtain ⟨-, -, hv, h⟩ := validateDataParam_bind_ok h
  dsimp only at h
  split at h
  · cases h
  simp only [pure_bind, hostState_bind, take_copyBuffer, writeBytes_apply] at h
  split at h
  · cases h
    exact ⟨by omega, hv, rfl⟩
  · cases h

/-- A successful `external_code_copy` read an address and wrote the copy buffer of that
account's code, or of no code for an account the host does not know. -/
theorem externalCodeCopy_ok {addrOffset resultOffset codeOffset length : BitVec 32}
    (h : externalCodeCopy host addrOffset resultOffset codeOffset length s = .ok () s') :
    0 ≤ codeOffset.toInt ∧ s.memory.validateWasmAddr resultOffset.toNat length.toNat = true ∧
      ∃ address : Address, address.bytes = (s.memory.bytes.drop addrOffset.toNat).take 20 ∧
      s' = { s with memory := (s.memory.overwrite resultOffset.toNat
        (copyBuffer ((host.externalCodeCopy s.extraCtx address).getD []) codeOffset.toNat
          length.toNat)) } := by
  obtain ⟨-, hav, h⟩ := validateOffsetForType_bind_ok h
  obtain ⟨-, -, hv, h⟩ := validateDataParam_bind_ok h
  dsimp only at h
  split at h
  · cases h
  simp only [pure_bind, readAddress, bind_of_ok (readFixed_of_valid _ hav), hostState_bind] at h
  refine ⟨by omega, hv, ⟨_, length_read_of_valid _ hav⟩, rfl, ?_⟩
  revert h
  generalize host.externalCodeCopy _ _ = code
  -- an unknown account: `vec![0; length]`, the copy buffer of no code
  cases code <;> intro h <;> dsimp only at h <;>
    rw [writeBytes_of_valid _ (by simp) length.isLt hv] at h <;> cases h
  · rw [Option.getD_none, copyBuffer_nil]
  · rfl

end HostFunctions

/-- `call_data_copy`, `return_data_copy` and `external_code_copy` keep the zero-fill rule;
`code_copy` writes only the part of the destination that the code covers. In the scenario,
a two-byte copy of the one-byte code to offset `19` leaves byte `20` at `1`, where the rule
puts a zero. -/
theorem codeCopy_skips_zero_fill :
    (∀ (σ : Type) (host : EvmHost σ) (resultOffset dataOffset length : BitVec 32)
      (s s' : Instance σ), HostFunctions.callDataCopy host resultOffset dataOffset length s =
        .ok () s' → s'.memory.bytes = zeroFilledCopy s.memory.bytes (host.callDataCopy s.extraCtx)
          resultOffset.toNat dataOffset.toNat length.toNat) ∧
    (∀ (σ : Type) (host : EvmHost σ) (resultOffset dataOffset length : BitVec 32)
      (s s' : Instance σ), HostFunctions.returnDataCopy host resultOffset dataOffset length s =
        .ok () s' → s'.memory.bytes = zeroFilledCopy s.memory.bytes
          (host.returnDataCopy s.extraCtx) resultOffset.toNat dataOffset.toNat length.toNat) ∧
    (∀ (σ : Type) (host : EvmHost σ) (addrOffset resultOffset codeOffset length : BitVec 32)
      (s s' : Instance σ),
      HostFunctions.externalCodeCopy host addrOffset resultOffset codeOffset length s =
        .ok () s' → ∃ address : Address,
          address.bytes = (s.memory.bytes.drop addrOffset.toNat).take 20 ∧
          s'.memory.bytes = zeroFilledCopy s.memory.bytes
            ((host.externalCodeCopy s.extraCtx address).getD []) resultOffset.toNat
            codeOffset.toNat length.toNat) ∧
    (∀ (σ : Type) (host : EvmHost σ) (resultOffset codeOffset length : BitVec 32)
      (s s' : Instance σ), HostFunctions.codeCopy host resultOffset codeOffset length s =
        .ok () s' → s'.memory.bytes = overwrite s.memory.bytes resultOffset.toNat
          (((host.codeCopy s.extraCtx).drop codeOffset.toNat).take length.toNat)) ∧
    ∃ s' : Instance MockContext,
      HostFunctions.codeCopy (mockHost scenarioEnv (runEntry scenarioEnv 1)) 19 0 2
        (.start scenarioMemory scenarioContext 100) = .ok () s' ∧
      s'.memory.bytes.get? 20 = some 1 ∧
      (zeroFilledCopy scenarioMemory.bytes scenarioContext.contractCode 19 0 2).get? 20 = some 0 := by
  refine ⟨fun _ _ _ _ _ _ _ h => ?_, fun _ _ _ _ _ _ _ h => ?_, fun _ _ _ _ _ _ _ _ h => ?_,
    fun _ _ _ _ _ _ _ h => ?_, ⟨_, rfl, by decide, by decide⟩⟩
  · obtain ⟨-, hv, rfl⟩ := HostFunctions.copyFrom_ok h
    exact overwrite_copyBuffer hv _ _
  · obtain ⟨-, hv, rfl⟩ := HostFunctions.copyFrom_ok h
    exact overwrite_copyBuffer hv _ _
  · obtain ⟨-, hv, address, ha, rfl⟩ := HostFunctions.externalCodeCopy_ok _ h
    exact ⟨address, ha, overwrite_copyBuffer hv _ _⟩
  · obtain ⟨-, -, rfl⟩ := HostFunctions.codeCopy_ok _ h
    rfl

end DtvmEvm
