import DtvmEvm.Mock.Builder
import DtvmEvm.Proofs.Codec
import DtvmEvm.Proofs.Mock.Outcome

/-!
# `DtvmEvm.Proofs.Mock.Builder`: what a test sets is what the contract reads

`with_chain_id_u64` and `with_gas_price_wei` store a `u64` as a 32-byte word: 24 zero bytes,
then the number's eight big-endian bytes. `get_chain_id` and `get_tx_gas_price` copy the
word the host state holds into guest memory. The host state of a frame keeps every field but
its cells through each host call, sub-calls at any depth included
(`Guest.Calls.mockHost_evolves`). So every such call the guest makes, however late in the
frame, writes the builder's word, and that word read big-endian is the test's number.

The main results:

* `fromBytesBE_u64ToBeBytes`: `u64::to_be_bytes` read back big-endian;
* `HostFunctions.writeHostValue_reads_back`: a successful `writeHostValue` leaves the host's
  value at the result offset;
* `builder_u64_values_read_back`: every `get_chain_id` and `get_tx_gas_price` of a frame whose
  context was built with `with_chain_id_u64` and `with_gas_price_wei` reads back the
  builder's numbers.
-/

set_option autoImplicit false

namespace DtvmEvm

/-! ### The builder's words -/

/-- The low `k` bytes of `x`, most significant first, read back big-endian. -/
theorem fromBytesBE_lowBytes (x k : Nat) :
    fromBytesBE ((List.range k).reverse.map fun i => UInt8.ofNat (x / 256 ^ i)) = x % 256 ^ k := by
  induction k with
  | zero => simp [Nat.mod_one]
  | succ k ih =>
    have hb : (UInt8.ofNat (x / 256 ^ k)).toNat = x / 256 ^ k % 256 := rfl
    rw [List.range_succ, List.reverse_append, List.map_append, List.reverse_singleton,
      List.map_singleton, List.singleton_append, fromBytesBE_cons, ih, hb, Nat.mod_pow_succ]
    simp only [List.length_map, List.length_reverse, List.length_range]
    rw [Nat.add_comm, Nat.mul_comm]

/-- `u64::to_be_bytes`, read back big-endian, is the number. -/
theorem fromBytesBE_u64ToBeBytes (x : UInt64) : fromBytesBE (u64ToBeBytes x) = x.toNat :=
  (fromBytesBE_lowBytes x.toNat 8).trans (Nat.mod_eq_of_lt x.val.isLt)

namespace MockContextBuilder

variable (b : MockContextBuilder) (x : UInt64)

@[simp] theorem fromBytesBE_withChainIdU64_chainId :
    fromBytesBE (b.withChainIdU64 x).chainId.bytes = x.toNat := by
  simp only [withChainIdU64, FixedBytes.padLeft, fromBytesBE_replicate_zero_append,
    fromBytesBE_u64ToBeBytes]

@[simp] theorem fromBytesBE_withGasPriceWei_gasPrice :
    fromBytesBE (b.withGasPriceWei x).txInfo.gasPrice.bytes = x.toNat := by
  simp only [withGasPriceWei, FixedBytes.padLeft, fromBytesBE_replicate_zero_append,
    fromBytesBE_u64ToBeBytes]

end MockContextBuilder

/-! ### Reading the words back -/

namespace HostFunctions

open HostFn MemoryAccessor

/-- A successful `writeHostValue` leaves the host's value, taken from the state before the
call, at the result offset. -/
theorem writeHostValue_reads_back {σ : Type} {n : Nat} {typeName : String}
    {value : σ → FixedBytes n} {r : BitVec 32} {s s' : Instance σ} (hn : n < 2 ^ 32)
    (h : writeHostValue typeName value r s = .ok () s') :
    (s'.memory.bytes.drop r.toNat).take n = (value s.extraCtx).bytes := by
  obtain ⟨-, hv, h⟩ := validateOffsetForType_bind_ok h
  rw [hostState_bind, writeBytes_fixed_apply s _ _ hn hv] at h
  cases h
  exact read_overwrite_fixed s _ hv

end HostFunctions

/-- A frame whose context was built with `with_chain_id_u64 chainId` and
`with_gas_price_wei wei`, on the mock host at any nesting depth: every `get_chain_id` and
every `get_tx_gas_price` its guest makes and that succeeds, after any host calls and
sub-calls before it, leaves at its result offset 32 bytes that read big-endian as `chainId`,
resp. `wei`. -/
theorem builder_u64_values_read_back (env : Env) (depth : Nat) (b : MockContextBuilder)
    (chainId wei : UInt64) (memory : Memory) (context : MockContext) (gas : Nat) (g : Guest)
    (c : HostCall) (r : BitVec 32) (inst inst' : Instance MockContext) (v : Option HostValue) :
    startFrame env ((b.withChainIdU64 chainId).withGasPriceWei wei).build =
        .ok (memory, context) →
      g.Calls (mockHost env (runEntry env depth)) c (.start memory context gas) inst →
      c.run (mockHost env (runEntry env depth)) inst = .ok v inst' →
      (c = .getChainId r →
        fromBytesBE ((inst'.memory.bytes.drop r.toNat).take 32) = chainId.toNat) ∧
      (c = .getTxGasPrice r →
        fromBytesBE ((inst'.memory.bytes.drop r.toNat).take 32) = wei.toNat) := by
  intro hstart hcalls hrun
  -- the host state at the call is the built context, with other cells
  have hctx : inst.extraCtx = { ((b.withChainIdU64 chainId).withGasPriceWei wei).build with
      cells := inst.extraCtx.cells } := by
    have h := (hcalls.mockHost_evolves (runEntry_evolves env depth)).1
    rwa [(startFrame_ok hstart).2] at h
  refine ⟨fun hc => ?_, fun hc => ?_⟩ <;> subst hc <;> obtain ⟨_, h, -⟩ := HostFn.map_eq_ok hrun
  · rw [HostFunctions.writeHostValue_reads_back (by decide) h]
    exact (congrArg (fun s => fromBytesBE s.chainId.bytes) hctx).trans
      (MockContextBuilder.fromBytesBE_withChainIdU64_chainId b chainId)
  · rw [HostFunctions.writeHostValue_reads_back (by decide) h]
    exact (congrArg (fun s => fromBytesBE s.txInfo.gasPrice.bytes) hctx).trans
      (MockContextBuilder.fromBytesBE_withGasPriceWei_gasPrice _ wei)

/-- A frame of the scenario's environment built with chain id `1` and gas price `20`, whose
guest starts with `get_chain_id` at offset `0`, reads `1` back. -/
theorem builder_u64_values_read_back_at_scenario :
    ∃ (memory : Memory) (context : MockContext) (inst' : Instance MockContext),
      startFrame scenarioEnv ((MockContextBuilder.new.withChainIdU64 1).withGasPriceWei 20).build =
        .ok (memory, context) ∧
      (HostCall.getChainId 0).run (mockHost scenarioEnv (runEntry scenarioEnv 0))
        (.start memory context 0) = .ok none inst' ∧
      fromBytesBE ((inst'.memory.bytes.drop 0).take 32) = 1 :=
  ⟨_, _, _, rfl, rfl,
    (builder_u64_values_read_back scenarioEnv 0 .new 1 20 _ _ 0 (.call (.getChainId 0) fun _ => .ret)
      (.getChainId 0) 0 _ _ none rfl .here rfl).1 rfl⟩

end DtvmEvm
