import DtvmEvm.Proofs.Mock.Calls

/-!
# `DtvmEvm.Proofs.Wrappers`: what the guest sees of a primitive's result

Every registered primitive is an `extern "C"` wrapper around a `host_functions` function,
of one of four kinds (`WrapperKind`). From the factoring of each wrapper as its kind applied
to the function it calls (`Extern.dispatch_eq_wrap`) follows the failure policy of the whole
catalogue (`dispatch_of_error`): an `Err` from the function aborts the guest with exception
`9` behind the `abort` wrappers, and comes back as an ordinary `i32` behind the five
`status` wrappers (`1`) and behind `get_external_code_size` (`0`). A `status` wrapper also
turns every `Ok` into `0`, so the guest cannot tell a failed sub-call from a successful one
(`dispatch_of_status_ok`).

The main results:

* `subCall_status_ignores_success`: the code a sub-call or create hands the guest, and a
  failed call of the scenario that the guest sees as `0`;
* `run_error_keeps_instance`: a failed primitive leaves the instance as it was;
* `failed_primitive_policy`: what an `Err` becomes behind each kind of wrapper, and two
  failed calls of the scenario that the guest reads in band and runs on;
* `getBlockHash_wrapper_truncates`: `block::get_block_hash` meets its specification
  (`blockHashSpec`), and the wrapper registered for it cuts the number to 32 bits and returns
  nothing.
-/

set_option autoImplicit false

namespace DtvmEvm

open HostFn

namespace Extern

variable {σ : Type} (host : EvmHost σ)

/-- What the guest gets when the function behind a primitive returns `Err`: the wrapper's
kind decides. The instance is as before the call. -/
theorem dispatch_of_error {c : HostCall} {inst inst' : Instance σ} {e : HostFunctionError}
    (h : c.callee.run host inst = .error (.error e) inst') :
    inst' = inst ∧ dispatch host c inst = match c.wrapperKind with
      | .abort => some (none, { inst with exception := some 9 })
      | .status => some (some (.i32 1), inst)
      | .orDefault => some (some (.i32 0), inst)
      | .scalar => none := by
  obtain rfl := (atomic_run host c.callee inst).error_eq _ _ h
  refine ⟨rfl, ?_⟩
  rw [dispatch_eq_wrap]
  cases c.wrapperKind <;> simp only [wrap, h]

/-- Behind a `status` wrapper, every `Ok` reaches the guest as `0`. -/
theorem dispatch_of_status_ok {c : HostCall} (hc : c.wrapperKind = .status)
    {inst inst' : Instance σ} {v : Option HostValue} (h : c.callee.run host inst = .ok v inst') :
    dispatch host c inst = some (some (.i32 0), inst') := by
  rw [dispatch_eq_wrap, hc]
  simp only [wrap, h]

end Extern

/-- The guest's code for a sub-call or a create is `0` whenever the bridge function returns
`Ok`, whatever the host reported, while the function's own value is `1` when the host's
call succeeded and `0` when it failed. In the scenario, the call of the second contract fails
in the host and the guest is still handed `0`. -/
theorem subCall_status_ignores_success :
    (∀ (σ : Type) (host : EvmHost σ) (c : HostCall) (inst inst' : Instance σ)
      (v : Option HostValue), c.wrapperKind = .status → c.callee.run host inst = .ok v inst' →
      Extern.dispatch host c inst = some (some (.i32 0), inst')) ∧
    (∀ (σ : Type) (host : EvmHost σ) (gas : BitVec 64)
      (addrOffset valueOffset dataOffset dataLength : BitVec 32) (inst inst' : Instance σ)
      (r : BitVec 32),
      HostFunctions.callContract host gas addrOffset valueOffset dataOffset dataLength inst =
        .ok r inst' →
      ∃ (target : Address) (value : Word) (st : σ) (result : ContractCallResult),
        target.bytes = (inst.memory.bytes.drop addrOffset.toNat).take 20 ∧
        value.bytes = (inst.memory.bytes.drop valueOffset.toNat).take 32 ∧
        host.callContract inst.extraCtx target (host.getCaller inst.extraCtx) value
          ((inst.memory.bytes.drop dataOffset.toNat).take dataLength.toNat) gas =
            some (st, result) ∧
        r = if result.success then 1 else 0) ∧
    ((mockHost scenarioEnv (runEntry scenarioEnv 1)).callContract scenarioContext scenarioTarget
        scenarioContext.caller (.zero 32) [] 0).map (fun p => p.2.success) = some false ∧
    (Extern.dispatch (mockHost scenarioEnv (runEntry scenarioEnv 1)) (.callContract 0 20 32 0 0)
        (.start scenarioMemory scenarioContext 100)).map (fun p => p.1) = some (some (.i32 0)) := by
  refine ⟨fun _ host _ _ _ _ hc h => Extern.dispatch_of_status_ok host hc h,
    fun _ _ _ _ _ _ _ _ _ _ h => ?_, by decide, by decide⟩
  obtain ⟨target, value, st, result, ht, hv, hm, -, hr⟩ := HostFunctions.callWithValue_ok h
  exact ⟨target, value, st, result, ht, hv, hm, hr⟩

/-- A primitive that returns `Err`, or panics, leaves the instance exactly as it found it:
the guest memory byte for byte, the host state (so no host method with an effect ran), and
the exit code (so `instance.exit` was not called). -/
theorem run_error_keeps_instance {σ : Type} (host : EvmHost σ) (c : HostCall) (inst inst' : Instance σ)
    (fault : HostFault) (h : c.run host inst = .error fault inst') : inst' = inst :=
  (atomic_run host c inst).error_eq fault inst' h

/-- In the scenario, `storage_store` reads its key at `0`, inside the 64 bytes of memory, and
then fails on its value at `40`, which runs past the end: the instance is as it was. -/
theorem storageStore_second_read_keeps_instance :
    ∃ inst' : Instance MockContext,
      (HostCall.storageStore 0 40).run (mockHost scenarioEnv (runEntry scenarioEnv 1))
          (.start scenarioMemory scenarioContext 100) =
        .error (.error (outOfBoundsError 40 32 "read_bytes")) inst' ∧
      scenarioMemory.validateWasmAddr 0 32 = true ∧ scenarioMemory.validateWasmAddr 40 32 = false ∧
      inst' = .start scenarioMemory scenarioContext 100 := by
  refine ⟨_, rfl, by decide, by decide, ?_⟩
  exact run_error_keeps_instance (mockHost scenarioEnv (runEntry scenarioEnv 1))
    (.storageStore 0 40) _ _ _ rfl

/-- The failure policy of the registered wrappers. An `Err` of the function behind a
primitive leaves the instance as it was, and it aborts the guest with exception `9` only
behind the `abort` wrappers. Behind the five `status` wrappers it is the in-band `1`, and
behind `get_external_code_size` the in-band `0`, with no exception set, so the guest runs on.
In the scenario, `get_external_code_size` with the address offset `-1` and `call_contract`
with the address offset `-1` both fail, and the guest reads `0` and `1` from an instance
without exception. -/
theorem failed_primitive_policy :
    (∀ (σ : Type) (host : EvmHost σ) (c : HostCall) (inst inst' : Instance σ)
      (e : HostFunctionError), c.callee.run host inst = .error (.error e) inst' →
      inst' = inst ∧
      (c.wrapperKind = .abort →
        Extern.dispatch host c inst = some (none, { inst with exception := some 9 })) ∧
      (c.wrapperKind = .status → Extern.dispatch host c inst = some (some (.i32 1), inst)) ∧
      (c.wrapperKind = .orDefault → Extern.dispatch host c inst = some (some (.i32 0), inst))) ∧
    (∃ e, (HostCall.getExternalCodeSize (-1)).run (mockHost scenarioEnv (runEntry scenarioEnv 1))
        (.start scenarioMemory scenarioContext 100) =
      .error (.error e) (.start scenarioMemory scenarioContext 100)) ∧
    Extern.dispatch (mockHost scenarioEnv (runEntry scenarioEnv 1)) (.getExternalCodeSize (-1))
        (.start scenarioMemory scenarioContext 100) =
      some (some (.i32 0), .start scenarioMemory scenarioContext 100) ∧
    (∃ e, (HostCall.callContract 0 (-1) 32 0 0).run (mockHost scenarioEnv (runEntry scenarioEnv 1))
        (.start scenarioMemory scenarioContext 100) =
      .error (.error e) (.start scenarioMemory scenarioContext 100)) ∧
    Extern.dispatch (mockHost scenarioEnv (runEntry scenarioEnv 1)) (.callContract 0 (-1) 32 0 0)
        (.start scenarioMemory scenarioContext 100) =
      some (some (.i32 1), .start scenarioMemory scenarioContext 100) := by
  refine ⟨fun _ host c _ _ _ h => ?_, ⟨_, rfl⟩,
    (Extern.dispatch_of_error _ (c := .getExternalCodeSize (-1)) rfl).2, ⟨_, rfl⟩,
    (Extern.dispatch_of_error _ (c := .callContract 0 (-1) 32 0 0) rfl).2⟩
  obtain ⟨rfl, hd⟩ := Extern.dispatch_of_error host h
  refine ⟨rfl, fun hk => ?_, fun hk => ?_, fun hk => ?_⟩ <;> rw [hd, hk]

/-! ### `get_block_hash` -/

/-- What `getBlockHash` should leave, in the words of its specification: the known hash and
`1` for `0 ≤ n < current_block`, the zero word and `0` otherwise. -/
def blockHashSpec {σ : Type} (host : EvmHost σ) (st : σ) (n : BitVec 64) : Word × BitVec 32 :=
  if 0 ≤ n.toInt ∧ n.toInt < (host.getBlockNumber st).toInt then
    match host.getBlockHash st n with
    | some hash => (hash, 1)
    | none => (FixedBytes.zero 32, 0)
  else (FixedBytes.zero 32, 0)

namespace HostFunctions

open MemoryAccessor

variable {σ : Type} (host : EvmHost σ)

/-- `block::get_block_hash` meets its specification: on a valid result offset it writes the
word of `blockHashSpec` there and returns its code. -/
theorem getBlockHash_of_valid (n : BitVec 64) {resultOffset : BitVec 32} {s : Instance σ}
    (ho : 0 ≤ resultOffset.toInt) (hr : s.memory.validateWasmAddr resultOffset.toNat 32 = true) :
    getBlockHash host n resultOffset s = .ok (blockHashSpec host s.extraCtx n).2
      { s with memory :=
          s.memory.overwrite resultOffset.toNat (blockHashSpec host s.extraCtx n).1.bytes } := by
  have hw := fun (w : Word) (c : BitVec 32) =>
    bind_of_ok (f := fun _ => (pure c : HostFn σ (BitVec 32)))
      (writeBytes_fixed_apply _ _ w (by decide) hr)
  rw [getBlockHash, validateBytes32Param, bind_of_ok (validateOffsetForType_of_valid _ ho hr),
    hostState_bind, blockHashSpec]
  split
  · -- outside `[0, current_block)`
    rw [if_neg (by omega)]
    simp only [writeBytes32, hw]
    rfl
  · -- inside: the host's answer decides
    rw [if_pos (by omega), bind_of_ok (x := (pure () : HostFn σ Unit)) rfl]
    rcases hget : host.getBlockHash s.extraCtx n with _ | hash <;>
      simp only [hostState_bind, hget, writeBytes32, hw] <;> rfl

end HostFunctions

/-- The registered `getBlockHash` is declared `(I64, I32) -> I32`, but its wrapper takes the
number as an `i32`, widens it back with `as i64`, and returns nothing. -/
theorem dispatch_getBlockHash {σ : Type} (host : EvmHost σ) (n : BitVec 64) (r : BitVec 32)
    (inst : Instance σ) :
    Extern.dispatch host (.getBlockHash n r) inst =
      Extern.abortOnError (HostFunctions.getBlockHash host ((n.truncate 32).signExtend 64) r)
        inst := rfl

/-- `get_block_hash` end to end. The function of `block.rs` meets its specification on every
valid result offset, for every `i64` number. The registered primitive runs it on the
sign-extended low 32 bits of the number and hands the guest no result, where the declaration
promises an `i32`. In the scenario (current block `12345`), the number `2 ^ 32 + 5` is past
the current block, so the specification asks for the zero word and `0`; the primitive looks
up block `5` and writes the host's hash. -/
theorem getBlockHash_wrapper_truncates :
    (∀ (σ : Type) (host : EvmHost σ) (n : BitVec 64) (r : BitVec 32) (inst : Instance σ),
      0 ≤ r.toInt → inst.memory.validateWasmAddr r.toNat 32 = true →
      HostFunctions.getBlockHash host n r inst = .ok (blockHashSpec host inst.extraCtx n).2
        { inst with
          memory := inst.memory.overwrite r.toNat (blockHashSpec host inst.extraCtx n).1.bytes }) ∧
    (∀ (σ : Type) (host : EvmHost σ) (n : BitVec 64) (r : BitVec 32) (inst : Instance σ),
      0 ≤ r.toInt → inst.memory.validateWasmAddr r.toNat 32 = true →
      Extern.dispatch host (.getBlockHash n r) inst = some (none, { inst with
        memory := inst.memory.overwrite r.toNat
          (blockHashSpec host inst.extraCtx ((n.truncate 32).signExtend 64)).1.bytes })) ∧
    blockHashSpec (mockHost scenarioEnv (runEntry scenarioEnv 1)) scenarioContext 0x100000005 =
      (FixedBytes.zero 32, 0) ∧
    (Extern.dispatch (mockHost scenarioEnv (runEntry scenarioEnv 1)) (.getBlockHash 0x100000005 0)
        (.start scenarioMemory scenarioContext 100)).map (fun p => (p.1, p.2.memory.bytes.take 32)) =
      some (none, MockContext.mockBlockHash.bytes) :=
  ⟨fun _ host n _ _ ho hr => HostFunctions.getBlockHash_of_valid host n ho hr,
    fun _ host n _ _ ho hr => by
      rw [dispatch_getBlockHash, Extern.abortOnError, HostFunctions.getBlockHash_of_valid host _ ho hr],
    by decide, by decide⟩

end DtvmEvm
