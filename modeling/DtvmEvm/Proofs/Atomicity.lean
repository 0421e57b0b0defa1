import DtvmEvm.Mock.Executor
import DtvmEvm.Proofs.Effects

/-!
# `DtvmEvm.Proofs.Atomicity`: what one primitive can do

Every primitive of the catalogue validates and reads all of its arguments before its first
effect: a write to guest memory, a host method with an effect, or `instance.exit`. After
that effect it cannot fail, and it calls at most one host method with an effect. So a
primitive is atomic (`AtomicAt`): when it returns `Err`, or panics, the instance is exactly
as it was, and when it succeeds, the host state is the old one or the old one after one
method of `EvmHost.Effect`.

One primitive has an effect before a step that checks something: `create_contract` hands
the creation to the host and only then writes the new address with `write_address`, which
validates its range again. That check cannot fail. The same range was accepted by
`validate_address_param` earlier in the same call, and the host call does not touch guest
memory (`atomic_createContract`).

The host is arbitrary. A host whose state records every call of a method with an effect
would show such a call in `extraCtx`, so an unchanged `extraCtx` for every host means that
no such method ran.

The main result, `atomic_run`: every registered primitive is atomic. `Proofs.Wrappers`
states what it gives the guest: a failed primitive leaves guest memory, host state and exit
code as they were (`run_error_keeps_instance`).
-/

set_option autoImplicit false

namespace DtvmEvm

open HostFn MemoryAccessor

variable {σ α β : Type}

/-- `s'` is `s` after one method of `host` with an effect. -/
inductive EvmHost.Effect (host : EvmHost σ) (s : σ) : σ → Prop
  | storageStore (key value : Word) : host.Effect s (host.storageStore s key value)
  | emitLogEvent (event : LogEvent) : host.Effect s (host.emitLogEvent s event)
  | finish (data : Bytes) : host.Effect s (host.finish s data)
  | revert (data : Bytes) : host.Effect s (host.revert s data)
  | invalid : host.Effect s (host.invalid s)
  | selfDestruct (recipient : Address) : host.Effect s (host.selfDestruct s recipient).1
  | callContract {target caller : Address} {value : Word} {data : Bytes} {gas : BitVec 64}
      {s' : σ} {result : ContractCallResult} :
      host.callContract s target caller value data gas = some (s', result) → host.Effect s s'
  | callCode {target caller : Address} {value : Word} {data : Bytes} {gas : BitVec 64}
      {s' : σ} {result : ContractCallResult} :
      host.callCode s target caller value data gas = some (s', result) → host.Effect s s'
  | callDelegate {target caller : Address} {data : Bytes} {gas : BitVec 64} {s' : σ}
      {result : ContractCallResult} :
      host.callDelegate s target caller data gas = some (s', result) → host.Effect s s'
  | callStatic {target caller : Address} {data : Bytes} {gas : BitVec 64} {s' : σ}
      {result : ContractCallResult} :
      host.callStatic s target caller data gas = some (s', result) → host.Effect s s'
  | createContract {creator : Address} {value : Word} {code data : Bytes} {gas : BitVec 64}
      {salt : Option Word} {isCreate2 : Bool} {s' : σ} {result : ContractCreateResult} :
      host.createContract s creator value code data gas salt isCreate2 = some (s', result) →
        host.Effect s s'

/-- Run at `s`, `x` fails cleanly, or succeeds having changed the host state by at most one
method with an effect. -/
structure AtomicAt (host : EvmHost σ) (s : Instance σ) (x : HostFn σ α) : Prop where
  error_eq : ∀ e s', x s = .error e s' → s' = s
  ok_effect : ∀ a s', x s = .ok a s' →
    s'.extraCtx = s.extraCtx ∨ host.Effect s.extraCtx s'.extraCtx

/-- `x` is atomic on every instance. -/
def Atomic (host : EvmHost σ) (x : HostFn σ α) : Prop :=
  ∀ s, AtomicAt host s x

/-! ### Rules -/

section Rules

variable {host : EvmHost σ} {x : HostFn σ α} {f : α → HostFn σ β} {s : Instance σ}

theorem hostState_ok {a : σ} {s' : Instance σ} (h : (hostState : HostFn σ σ) s = .ok a s') :
    a = s.extraCtx := by
  rw [hostState_apply] at h; cases h; rfl

theorem Atomic.of_failsCleanly (hx : FailsCleanly x) (hk : KeepsHost x) : Atomic host x :=
  fun s => ⟨hx s, fun a s' h => .inl (hk s a s' h)⟩

theorem HostFn.ReadOnly.atomic (hx : ReadOnly x) : Atomic host x :=
  .of_failsCleanly hx.failsCleanly hx.keepsHost

/-- A read-only step keeps the instance, so its continuation runs on the same `s` and may
use what the step returned there. -/
theorem AtomicAt.bind_of_readOnly (hx : ReadOnly x)
    (hf : ∀ a, x s = .ok a s → AtomicAt host s (f a)) : AtomicAt host s (x >>= f) where
  error_eq e s' h := by
    rw [bind_apply] at h
    rcases hx s with ⟨a, ha⟩ | ⟨e', he⟩
    · rw [ha] at h; exact (hf a ha).error_eq e s' h
    · rw [he] at h; cases h; rfl
  ok_effect b s' h := by
    rw [bind_apply] at h
    rcases hx s with ⟨a, ha⟩ | ⟨e', he⟩
    · rw [ha] at h; exact (hf a ha).ok_effect b s' h
    · rw [he] at h; cases h

theorem Atomic.bind_of_readOnly (hx : ReadOnly x) (hf : ∀ a, Atomic host (f a)) :
    Atomic host (x >>= f) :=
  fun _ => .bind_of_readOnly hx fun a _ => hf a _

/-- `let evmhost = &instance.extra_ctx`: the continuation sees the actual host state. -/
theorem AtomicAt.hostState_bind {f : σ → HostFn σ β} (hf : AtomicAt host s (f s.extraCtx)) :
    AtomicAt host s (hostState >>= f) :=
  .bind_of_readOnly readOnly_hostState fun _ h => hostState_ok h ▸ hf

theorem Atomic.hostState_bind {f : σ → HostFn σ β} (hf : ∀ s, AtomicAt host s (f s.extraCtx)) :
    Atomic host (hostState >>= f) :=
  fun s => .hostState_bind (hf s)

/-- An effect followed by steps that cannot fail and leave the host alone. -/
theorem AtomicAt.bind_of_neverFails (hx : AtomicAt host s x) (hf : ∀ a, NeverFails (f a))
    (hk : ∀ a, KeepsHost (f a)) : AtomicAt host s (x >>= f) where
  error_eq e s' h := by
    rw [bind_apply] at h
    cases hs : x s with
    | ok a s₁ => rw [hs] at h; exact absurd h (hf a s₁ e s')
    | error e' s₁ => rw [hs] at h; cases h; exact hx.error_eq _ _ hs
  ok_effect b s' h := by
    rw [bind_apply] at h
    cases hs : x s with
    | ok a s₁ => rw [hs] at h; rw [hk a s₁ b s' h]; exact hx.ok_effect a s₁ hs
    | error e' s₁ => rw [hs] at h; cases h

theorem Atomic.bind_of_neverFails (hx : Atomic host x) (hf : ∀ a, NeverFails (f a))
    (hk : ∀ a, KeepsHost (f a)) : Atomic host (x >>= f) :=
  fun s => (hx s).bind_of_neverFails hf hk

theorem Atomic.map (g : α → β) (hx : Atomic host x) : Atomic host (g <$> x) := fun s => by
  constructor
  · intro e s' h
    rw [map_apply] at h
    cases hs : x s with
    | ok a s₁ => rw [hs] at h; cases h
    | error e' s₁ => rw [hs] at h; cases h; exact (hx s).error_eq _ _ hs
  · intro b s' h
    rw [map_apply] at h
    cases hs : x s with
    | ok a s₁ => rw [hs] at h; cases h; exact (hx s).ok_effect _ _ hs
    | error e' s₁ => rw [hs] at h; cases h

theorem atomicAt_setHostState {st : σ} (h : host.Effect s.extraCtx st) :
    AtomicAt host s (setHostState st) :=
  ⟨fun e s' h' => (by cases h'), fun _ s' h' => by cases h'; exact .inr h⟩

theorem atomic_writeBytes (o : Nat) (d : Bytes) : Atomic host (writeBytes o d : HostFn σ Unit) :=
  .of_failsCleanly (failsCleanly_writeBytes o d) (keepsHost_writeBytes o d)

theorem atomic_writeBytes32 (o : Nat) (d : Word) :
    Atomic host (writeBytes32 o d : HostFn σ Unit) :=
  atomic_writeBytes o d.bytes

theorem keepsHost_pure (a : α) : KeepsHost (pure a : HostFn σ α) := (readOnly_pure a).keepsHost

theorem neverFails_exit (code : Int) : NeverFails (HostFunctions.exit code : HostFn σ Unit) :=
  neverFails_modify _

theorem keepsHost_exit (code : Int) : KeepsHost (HostFunctions.exit code : HostFn σ Unit) := by
  intro s a s' h; cases h; rfl

/-- A write, then a result. -/
theorem atomic_writeBytes32_pure (o : Nat) (d : Word) (r : α) :
    Atomic host (writeBytes32 o d >>= fun _ => (pure r : HostFn σ α)) :=
  (atomic_writeBytes32 o d).bind_of_neverFails (fun _ => neverFails_pure r)
    fun _ => keepsHost_pure r

/-- A host effect, then `instance.exit`. -/
theorem atomicAt_setHostState_exit {st : σ} (h : host.Effect s.extraCtx st) (code : Int) :
    AtomicAt host s (setHostState st >>= fun _ => HostFunctions.exit code) :=
  (atomicAt_setHostState h).bind_of_neverFails (fun _ => neverFails_exit code)
    fun _ => keepsHost_exit code

end Rules

namespace HostFunctions

variable (host : EvmHost σ)

/-! ### The shared bodies -/

theorem atomic_writeHostValue {n : Nat} (typeName : String) (value : σ → FixedBytes n)
    (resultOffset : BitVec 32) : Atomic host (writeHostValue typeName value resultOffset) :=
  .bind_of_readOnly (readOnly_validateOffsetForType _ _ _) fun _ =>
    .bind_of_readOnly readOnly_hostState fun _ => atomic_writeBytes _ _

theorem atomic_hashPrimitive (name : String) (hash : σ → Bytes → Word)
    (inputOffset inputLength resultOffset : BitVec 32) :
    Atomic host (hashPrimitive name hash inputOffset inputLength resultOffset) :=
  .bind_of_readOnly (readOnly_validateDataParam _ _ _) fun _ =>
    .bind_of_readOnly (readOnly_validateBytes32Param _) fun _ =>
      .bind_of_readOnly (readOnly_readBytesVec _ _) fun _ =>
        .bind_of_readOnly readOnly_hostState fun _ => atomic_writeBytes32 _ _

theorem atomic_modPrimitive (op : σ → Word → Word → Word → Word)
    (aOffset bOffset nOffset resultOffset : BitVec 32) :
    Atomic host (modPrimitive op aOffset bOffset nOffset resultOffset) :=
  .bind_of_readOnly (readOnly_validateBytes32Param _) fun _ =>
    .bind_of_readOnly (readOnly_validateBytes32Param _) fun _ =>
      .bind_of_readOnly (readOnly_validateBytes32Param _) fun _ =>
        .bind_of_readOnly (readOnly_validateBytes32Param _) fun _ =>
          .bind_of_readOnly (readOnly_readBytes32 _) fun _ =>
            .bind_of_readOnly (readOnly_readBytes32 _) fun _ =>
              .bind_of_readOnly (readOnly_readBytes32 _) fun _ =>
                .bind_of_readOnly readOnly_hostState fun _ => atomic_writeBytes32 _ _

theorem atomic_copyFrom (name negativeContext : String) (source : σ → Bytes)
    (resultOffset dataOffset length : BitVec 32) :
    Atomic host (copyFrom name negativeContext source resultOffset dataOffset length) := by
  refine .bind_of_readOnly (readOnly_validateDataParam _ _ _) fun ⟨_, _⟩ => ?_
  dsimp only
  split
  · exact (readOnly_throw _).atomic
  · exact .bind_of_readOnly (readOnly_pure _) fun _ =>
      .bind_of_readOnly readOnly_hostState fun _ => atomic_writeBytes _ _

theorem atomic_terminate (name : String) (method : σ → Bytes → σ)
    (hm : ∀ st data, host.Effect st (method st data)) (code : Int)
    (dataOffset length : BitVec 32) :
    Atomic host (terminate name method code dataOffset length) :=
  .bind_of_readOnly (readOnly_validateDataParam _ _ _) fun _ =>
    .bind_of_readOnly (readOnly_readBytesVec _ _) fun data _ =>
      .hostState_bind (atomicAt_setHostState_exit (hm _ data) code)

theorem atomicAt_finishCall {s : Instance σ} {outcome : Option (σ × ContractCallResult)}
    (h : ∀ s' result, outcome = some (s', result) → host.Effect s.extraCtx s') :
    AtomicAt host s (finishCall outcome) := by
  unfold finishCall
  split
  · exact (readOnly_throw _).atomic s
  · exact (atomicAt_setHostState (h _ _ rfl)).bind_of_neverFails (fun _ => neverFails_pure _)
      fun _ => keepsHost_pure _

theorem atomic_callWithValue (name : String)
    (method : σ → Address → Address → Word → Bytes → Option (σ × ContractCallResult))
    (hm : ∀ st t c v d s' r, method st t c v d = some (s', r) → host.Effect st s')
    (addrOffset valueOffset dataOffset dataLength : BitVec 32) :
    Atomic host (callWithValue host name method addrOffset valueOffset dataOffset dataLength) :=
  .bind_of_readOnly (readOnly_validateAddressParam _) fun _ =>
    .bind_of_readOnly (readOnly_validateBytes32Param _) fun _ =>
      .bind_of_readOnly (readOnly_validateDataParam _ _ _) fun _ =>
        .bind_of_readOnly (readOnly_readAddress _) fun _ =>
          .bind_of_readOnly (readOnly_readBytes32 _) fun _ =>
            .bind_of_readOnly (readOnly_readBytesVec _ _) fun _ _ =>
              .hostState_bind <| .hostState_bind <|
                atomicAt_finishCall host fun _ _ => hm _ _ _ _ _ _ _

theorem atomic_callWithoutValue (name : String)
    (method : σ → Address → Address → Bytes → Option (σ × ContractCallResult))
    (hm : ∀ st t c d s' r, method st t c d = some (s', r) → host.Effect st s')
    (addrOffset dataOffset dataLength : BitVec 32) :
    Atomic host (callWithoutValue host name method addrOffset dataOffset dataLength) :=
  .bind_of_readOnly (readOnly_validateAddressParam _) fun _ =>
    .bind_of_readOnly (readOnly_validateDataParam _ _ _) fun _ =>
      .bind_of_readOnly (readOnly_readAddress _) fun _ =>
        .bind_of_readOnly (readOnly_readBytesVec _ _) fun _ _ =>
          .hostState_bind <| .hostState_bind <|
            atomicAt_finishCall host fun _ _ => hm _ _ _ _ _ _

/-! ### The primitives with a body of their own -/

/-- The queries that return a value of the host state. -/
theorem readOnly_query {β : Type} (g : σ → β) :
    ReadOnly (hostState >>= fun st => (pure (g st) : HostFn σ β)) :=
  readOnly_hostState.bind fun _ => readOnly_pure _

theorem readOnly_getGasLeft : ReadOnly (getGasLeft host) :=
  readOnly_get.bind fun _ => readOnly_hostState.bind fun _ => readOnly_pure _

theorem atomic_getExternalBalance (addrOffset resultOffset : BitVec 32) :
    Atomic host (getExternalBalance host addrOffset resultOffset) :=
  .bind_of_readOnly (readOnly_validateAddressParam _) fun _ =>
    .bind_of_readOnly (readOnly_validateBytes32Param _) fun _ =>
      .bind_of_readOnly (readOnly_readAddress _) fun _ =>
        .bind_of_readOnly readOnly_hostState fun _ => atomic_writeBytes32 _ _

theorem atomic_storageStore (keyOffset valueOffset : BitVec 32) :
    Atomic host (storageStore host keyOffset valueOffset) :=
  .bind_of_readOnly (readOnly_readBytes32 _) fun k =>
    .bind_of_readOnly (readOnly_readBytes32 _) fun v =>
      .hostState_bind fun _ => by exact atomicAt_setHostState (.storageStore k v)

theorem atomic_storageLoad (keyOffset resultOffset : BitVec 32) :
    Atomic host (storageLoad host keyOffset resultOffset) :=
  .bind_of_readOnly (readOnly_readBytes32 _) fun _ =>
    .bind_of_readOnly readOnly_hostState fun _ => atomic_writeBytes32 _ _

theorem atomic_invalid : Atomic host (invalid host) :=
  .hostState_bind fun _ => atomicAt_setHostState_exit .invalid 2


theorem readOnly_readTopic (topicOffset : BitVec 32) :
    ReadOnly (readTopic topicOffset : HostFn σ Word) := by
  unfold readTopic
  split
  · exact (readOnly_validateBytes32Param _).bind fun _ => readOnly_readBytes32 _
  · exact readOnly_pure _

theorem atomic_emitLogEvent (dataOffset length numTopics t1 t2 t3 t4 : BitVec 32) :
    Atomic host (emitLogEvent host dataOffset length numTopics t1 t2 t3 t4) := by
  unfold emitLogEvent
  split
  · exact (readOnly_throw _).atomic
  · exact .bind_of_readOnly (readOnly_pure _) fun _ =>
      .bind_of_readOnly (readOnly_validateDataParam _ _ _) fun _ =>
        .bind_of_readOnly (readOnly_readBytesVec _ _) fun _ =>
          .bind_of_readOnly (ReadOnly.listMapM readOnly_readTopic _) fun _ _ =>
            .hostState_bind <| .hostState_bind <| atomicAt_setHostState (.emitLogEvent _)

theorem atomic_getBlockHash (blockNum : BitVec 64) (resultOffset : BitVec 32) :
    Atomic host (getBlockHash host blockNum resultOffset) := by
  refine .bind_of_readOnly (readOnly_validateBytes32Param _) fun _ =>
    .bind_of_readOnly readOnly_hostState fun _ => ?_
  dsimp only
  split
  · exact atomic_writeBytes32_pure _ _ _
  · refine .bind_of_readOnly (readOnly_pure _) fun _ =>
      .bind_of_readOnly readOnly_hostState fun _ => ?_
    split <;> exact atomic_writeBytes32_pure _ _ _

theorem atomic_codeCopy (resultOffset codeOffset length : BitVec 32) :
    Atomic host (codeCopy host resultOffset codeOffset length) := by
  refine .bind_of_readOnly (readOnly_validateDataParam _ _ _) fun ⟨_, _⟩ => ?_
  dsimp only
  split
  · exact (readOnly_throw _).atomic
  · exact .bind_of_readOnly (readOnly_pure _) fun _ =>
      .bind_of_readOnly readOnly_hostState fun _ => atomic_writeBytes _ _

theorem atomic_externalCodeCopy (addrOffset resultOffset codeOffset length : BitVec 32) :
    Atomic host (externalCodeCopy host addrOffset resultOffset codeOffset length) := by
  refine .bind_of_readOnly (readOnly_validateAddressParam _) fun _ =>
    .bind_of_readOnly (readOnly_validateDataParam _ _ _) fun ⟨_, _⟩ => ?_
  dsimp only
  split
  · exact (readOnly_throw _).atomic
  · refine .bind_of_readOnly (readOnly_pure _) fun _ =>
      .bind_of_readOnly (readOnly_readAddress _) fun _ =>
        .bind_of_readOnly readOnly_hostState fun _ => ?_
    split <;> exact atomic_writeBytes _ _

theorem atomic_getExternalCodeHash (addrOffset resultOffset : BitVec 32) :
    Atomic host (getExternalCodeHash host addrOffset resultOffset) := by
  refine .bind_of_readOnly (readOnly_validateAddressParam _) fun _ =>
    .bind_of_readOnly (readOnly_validateBytes32Param _) fun _ =>
      .bind_of_readOnly (readOnly_readAddress _) fun _ =>
        .bind_of_readOnly readOnly_hostState fun _ => ?_
  split <;> exact atomic_writeBytes32 _ _

theorem readOnly_getExternalCodeSize (addrOffset : BitVec 32) :
    ReadOnly (getExternalCodeSize host addrOffset) := by
  refine (readOnly_validateAddressParam _).bind fun _ =>
    (readOnly_readAddress _).bind fun _ => readOnly_hostState.bind fun _ => ?_
  split <;> exact readOnly_pure _

theorem atomic_selfDestruct (addrOffset : BitVec 32) :
    Atomic host (selfDestruct host addrOffset) :=
  .bind_of_readOnly (readOnly_validateAddressParam _) fun _ =>
    .bind_of_readOnly (readOnly_readAddress _) fun recipient _ =>
      .hostState_bind (atomicAt_setHostState_exit (.selfDestruct recipient) 3)

/-- The one primitive with an effect before a check: after the host's `create_contract`,
`write_address` validates the result range again. It accepts it, because
`validate_address_param` accepted the same range on the same memory. -/
theorem atomic_createContract (valueOffset codeOffset codeLength dataOffset dataLength
    saltOffset isCreate2 resultOffset : BitVec 32) :
    Atomic host (createContract host valueOffset codeOffset codeLength dataOffset dataLength
      saltOffset isCreate2 resultOffset) := by
  intro s
  refine .bind_of_readOnly (readOnly_validateBytes32Param _) fun _ _ =>
    .bind_of_readOnly (readOnly_validateDataParam _ _ _) fun _ _ =>
      .bind_of_readOnly (readOnly_validateDataParam _ _ _) fun _ _ =>
        .bind_of_readOnly ((readOnly_validateBytes32Param _).map _ |>.ite _ (readOnly_pure _))
          fun _ _ => .bind_of_readOnly (readOnly_validateAddressParam _) fun r hr => ?_
  have hvalid := (validateOffsetForType_ok s hr).2.2.2
  refine .bind_of_readOnly (readOnly_readBytes32 _) fun _ _ =>
    .bind_of_readOnly (readOnly_readBytesVec _ _) fun _ _ =>
      .bind_of_readOnly (readOnly_readBytesVec _ _) fun _ _ =>
        .bind_of_readOnly (ReadOnly.optionMapM readOnly_readBytes32 _) fun _ _ =>
          .hostState_bind <| .bind_of_readOnly readOnly_get fun _ _ => .hostState_bind ?_
  split
  · exact (readOnly_throw _).atomic s
  · rename_i st result heq
    -- the write after the host call runs on the same memory, so it succeeds
    have hwrite : ∀ d : Address, (writeAddress r d : HostFn σ Unit) { s with extraCtx := st } =
        .ok () { s with extraCtx := st, memory := s.memory.overwrite r d.bytes } :=
      fun d => writeBytes_fixed_apply { s with extraCtx := st } r d (by decide) hvalid
    constructor <;> intro _ _ h <;>
      rw [bind_of_ok (setHostState_apply _ _), bind_apply, hwrite] at h <;> cases h
    exact .inr (.createContract heq)

end HostFunctions

/-! ### The catalogue -/

open HostFunctions in
/-- Every registered primitive is atomic. -/
theorem atomic_run (host : EvmHost σ) (c : HostCall) : Atomic host (c.run host) := by
  cases c with
  | getAddress | getCaller | getCallValue | getChainId | getTxOrigin | getBlockCoinbase
  | getBlobBaseFee | getBaseFee | getTxGasPrice | getBlockPrevRandao =>
    exact (atomic_writeHostValue host _ _ _).map _
  | getExternalBalance => exact (atomic_getExternalBalance host _ _).map _
  | getBlockNumber | getBlockTimestamp | getBlockGasLimit | getCallDataSize | getCodeSize
  | getReturnDataSize => exact (readOnly_query _).atomic.map _
  | getGasLeft => exact (readOnly_getGasLeft host).atomic.map _
  | getBlockHash => exact (atomic_getBlockHash host _ _).map _
  | storageStore => exact (atomic_storageStore host _ _).map _
  | storageLoad => exact (atomic_storageLoad host _ _).map _
  | callDataCopy | returnDataCopy => exact (atomic_copyFrom host _ _ _ _ _ _).map _
  | codeCopy => exact (atomic_codeCopy host _ _ _).map _
  | getExternalCodeSize => exact (readOnly_getExternalCodeSize host _).atomic.map _
  | getExternalCodeHash => exact (atomic_getExternalCodeHash host _ _).map _
  | externalCodeCopy => exact (atomic_externalCodeCopy host _ _ _ _).map _
  | sha256 | keccak256 => exact (atomic_hashPrimitive host _ _ _ _ _).map _
  | addmod | mulmod | expmod => exact (atomic_modPrimitive host _ _ _ _ _).map _
  | callContract =>
    exact (atomic_callWithValue host _ _ (fun _ _ _ _ _ _ _ => .callContract) _ _ _ _).map _
  | callCode =>
    exact (atomic_callWithValue host _ _ (fun _ _ _ _ _ _ _ => .callCode) _ _ _ _).map _
  | callDelegate =>
    exact (atomic_callWithoutValue host _ _ (fun _ _ _ _ _ _ => .callDelegate) _ _ _).map _
  | callStatic =>
    exact (atomic_callWithoutValue host _ _ (fun _ _ _ _ _ _ => .callStatic) _ _ _).map _
  | createContract => exact (atomic_createContract host _ _ _ _ _ _ _ _).map _
  | finish => exact (atomic_terminate host _ _ (fun _ => .finish) _ _ _).map _
  | revert => exact (atomic_terminate host _ _ (fun _ => .revert) _ _ _).map _
  | invalid => exact (atomic_invalid host).map _
  | selfDestruct => exact (atomic_selfDestruct host _).map _
  | emitLogEvent => exact (atomic_emitLogEvent host _ _ _ _ _ _ _).map _

end DtvmEvm
