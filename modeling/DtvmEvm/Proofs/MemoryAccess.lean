import DtvmEvm.Proofs.Arithmetic
import DtvmEvm.Proofs.Wrappers
import DtvmEvm.Proofs.Copy

/-!
# `DtvmEvm.Proofs.MemoryAccess`: where the primitives write guest memory, and what they reject

Two properties of the whole catalogue, each stated once per primitive and then over every
`HostCall` by cases, as `Atomic` is in `Proofs.Atomicity`.

**Footprint.** `KeepsMemory x` says a successful `x` leaves guest memory as it was;
`WritesAt o P x` says it wrote one byte string `d` at `o`, with `P d.length`, on a range
inside memory, and nothing else. The validators, reads and host calls keep memory;
`write_bytes` on a validated range writes at its offset; a validated result offset is the
offset written (`WritesAt.validateOffsetForType_bind`). Each primitive declares its output
(`HostCall.outputRange`): a 20-byte address or a 32-byte word at the result offset, up to
`length` bytes for the four copy primitives, or nothing. A successful call changes no byte
outside that range, and a fixed-size output replaces the whole range with the value the
primitive produces (`HostCall.Produces`): the host's answer on the arguments it read, which
one `_ok` lemma per primitive states.

**Negative offsets.** `Check x` says `x` leaves the instance alone and fails only with an
`Err`; `FailsAt s x` says it returns `Err` at `s` without a change. Every primitive starts
with checks, so a check that fails makes the primitive fail before any effect. All
primitives but two validate each offset and length they use with a sign check
(`HostCall.memoryArgs`). `storage_store` and `storage_load` cast theirs `as u32`: `-32`
becomes `0xFFFFFFE0`, which a memory of `2 ^ 32` bytes accepts.

The main results:

* `run_produces`: the value a successful primitive with a fixed-size output writes;
* `primitive_memory_footprint`: the bytes a successful primitive may change, and what an
  address or word output holds afterwards;
* `dispatch_memory_footprint`: the same bytes, for whatever the registered wrapper returns;
* `storage_skips_sign_check`: every primitive but the two storage ones rejects a negative
  offset or length, and those two accept one.
-/

set_option autoImplicit false

namespace DtvmEvm

namespace HostFn

variable {σ α β : Type} {x : HostFn σ α} {f : α → HostFn σ β} {o : Nat} {P : Nat → Prop}

/-! ### Footprints -/

/-- When `x` succeeds, guest memory is as it was. -/
def KeepsMemory (x : HostFn σ α) : Prop :=
  ∀ s a s', x s = .ok a s' → s'.memory = s.memory

/-- When `x` succeeds, it wrote one byte string `d` with `P d.length` at `o`, on a range
inside memory, and changed no other byte. -/
def WritesAt (o : Nat) (P : Nat → Prop) (x : HostFn σ α) : Prop :=
  ∀ s a s', x s = .ok a s' → ∃ d : Bytes, P d.length ∧ o + d.length ≤ s.memory.bytes.length ∧
    s'.memory.bytes = overwrite s.memory.bytes o d

theorem ReadOnly.keepsMemory (hx : ReadOnly x) : KeepsMemory x := fun _ _ _ h => by
  rw [hx.eq_of_ok h]

theorem keepsMemory_modify {g : Instance σ → Instance σ} (hg : ∀ i, (g i).memory = i.memory) :
    KeepsMemory (modify g) := by
  intro s _ s' h
  cases h
  exact hg s

theorem KeepsMemory.bind (hx : KeepsMemory x) (hf : ∀ a, KeepsMemory (f a)) :
    KeepsMemory (x >>= f) := by
  intro s b s' h
  obtain ⟨a, s₁, h₁, h₂⟩ := bind_eq_ok h
  rw [hf a _ _ _ h₂, hx _ _ _ h₁]

theorem KeepsMemory.bind_writesAt (hx : KeepsMemory x) (hf : ∀ a, WritesAt o P (f a)) :
    WritesAt o P (x >>= f) := by
  intro s b s' h
  obtain ⟨a, s₁, h₁, h₂⟩ := bind_eq_ok h
  rw [← hx _ _ _ h₁]
  exact hf a _ _ _ h₂

theorem WritesAt.bind_keepsMemory (hx : WritesAt o P x) (hf : ∀ a, KeepsMemory (f a)) :
    WritesAt o P (x >>= f) := by
  intro s b s' h
  obtain ⟨a, s₁, h₁, h₂⟩ := bind_eq_ok h
  rw [hf a _ _ _ h₂]
  exact hx _ _ _ h₁

theorem KeepsMemory.map (g : α → β) (hx : KeepsMemory x) : KeepsMemory (g <$> x) := by
  intro s b s' h
  rw [map_apply] at h
  split at h
  · cases h; exact hx _ _ _ ‹_›
  · cases h

theorem WritesAt.map (g : α → β) (hx : WritesAt o P x) : WritesAt o P (g <$> x) := by
  intro s b s' h
  rw [map_apply] at h
  split at h
  · cases h; exact hx _ _ _ ‹_›
  · cases h

theorem WritesAt.mono {Q : Nat → Prop} (hx : WritesAt o P x) (hPQ : ∀ n, P n → Q n) :
    WritesAt o Q x := fun s a s' h =>
  let ⟨d, hd, hin, he⟩ := hx s a s' h
  ⟨d, hPQ _ hd, hin, he⟩

theorem writesAt_throw (e : HostFault) : WritesAt o P (throw e : HostFn σ α) :=
  fun _ _ _ h => nomatch h

/-! ### Checks -/

/-- `x` leaves the instance alone and fails only with an `Err`: the validators and reads. -/
def Check (x : HostFn σ α) : Prop :=
  ∀ s, (∃ a, x s = .ok a s) ∨ ∃ e, x s = .error (.error e) s

/-- `x` returns `Err` at `s`, with the instance unchanged. -/
def FailsAt (s : Instance σ) (x : HostFn σ α) : Prop :=
  ∃ e, x s = .error (.error e) s

variable {s : Instance σ}

theorem FailsAt.bind (hx : FailsAt s x) : FailsAt s (x >>= f) := by
  obtain ⟨e, he⟩ := hx
  exact ⟨e, by rw [bind_apply, he]⟩

theorem Check.failsAt_bind (hx : Check x) (hf : ∀ a, FailsAt s (f a)) : FailsAt s (x >>= f) := by
  rcases hx s with ⟨a, ha⟩ | hfail
  · rw [FailsAt, bind_of_ok ha]
    exact hf a
  · exact FailsAt.bind hfail

theorem FailsAt.map (g : α → β) (hx : FailsAt s x) : FailsAt s (g <$> x) := by
  obtain ⟨e, he⟩ := hx
  exact ⟨e, by rw [map_apply, he]⟩

theorem failsAt_throw (e : HostFunctionError) : FailsAt s (throw (.error e) : HostFn σ α) :=
  ⟨e, rfl⟩

theorem check_pure (a : α) : Check (pure a : HostFn σ α) := fun _ => .inl ⟨a, rfl⟩

theorem Check.bind (hx : Check x) (hf : ∀ a, Check (f a)) : Check (x >>= f) := by
  intro s
  rcases hx s with ⟨a, ha⟩ | ⟨e, he⟩
  · rw [bind_of_ok ha]; exact hf a s
  · exact .inr ⟨e, by rw [bind_apply, he]⟩

theorem Check.ite (c : Prop) [Decidable c] {y : HostFn σ α} (hx : Check x) (hy : Check y) :
    Check (if c then x else y) := by
  split <;> assumption

/-- The loop of `List.mapM` over checks fails where one of its passes fails. -/
theorem failsAt_listMapM {g : α → HostFn σ β} (hg : ∀ a, Check (g a)) {l : List α} {a : α}
    (ha : a ∈ l) (hfail : FailsAt s (g a)) : FailsAt s (l.mapM g) := by
  induction l with
  | nil => cases ha
  | cons b l ih =>
    rw [List.mapM_cons]
    rcases List.mem_cons.mp ha with rfl | ha
    · exact hfail.bind
    · exact (hg b).failsAt_bind fun _ => (ih ha).bind

/-- A check that does not succeed at `s` fails there. -/
theorem Check.failsAt_of_not_ok (hx : Check x) (h : ∀ a, x s ≠ .ok a s) : FailsAt s x :=
  (hx s).resolve_left fun ⟨a, ha⟩ => h a ha

theorem Check.map (g : α → β) (hx : Check x) : Check (g <$> x) := by
  intro s
  rcases hx s with ⟨a, ha⟩ | ⟨e, he⟩
  · exact .inl ⟨g a, by rw [map_apply, ha]⟩
  · exact .inr ⟨e, by rw [map_apply, he]⟩

end HostFn

open HostFn MemoryAccessor

variable {σ β : Type} {o : Nat} {P : Nat → Prop}

/-! ### The accessor and the validators -/

theorem keepsMemory_setHostState (st : σ) : KeepsMemory (setHostState st) :=
  keepsMemory_modify fun _ => rfl

theorem keepsMemory_exit (code : Int) : KeepsMemory (HostFunctions.exit code : HostFn σ Unit) :=
  keepsMemory_modify fun _ => rfl

/-- `write_bytes` of fewer than `2 ^ 32` bytes writes them at its offset. -/
theorem writesAt_writeBytes (o : Nat) (d : Bytes) (hd : d.length < 2 ^ 32) :
    WritesAt o (· = d.length) (writeBytes o d : HostFn σ Unit) := by
  intro s _ s' h
  rw [writeBytes_apply, Nat.mod_eq_of_lt hd] at h
  split at h
  · cases h
    exact ⟨d, rfl, s.memory.validate_sound _ _ ‹_›, rfl⟩
  · cases h

/-- `write_bytes32` and `write_address` write the whole array at their offset. -/
theorem writesAt_writeFixed {n : Nat} (o : Nat) (d : FixedBytes n) (hn : n < 2 ^ 32) :
    WritesAt o (· = n) (writeBytes o d.bytes : HostFn σ Unit) :=
  (writesAt_writeBytes o d.bytes (by rw [d.length_eq]; exact hn)).mono fun _ h =>
    h.trans d.length_eq

theorem HostFn.WritesAt.validateOffsetForType_bind {offset : BitVec 32} {n : Nat} {name : String}
    {f : Nat → HostFn σ β} (hf : WritesAt o P (f offset.toNat)) :
    WritesAt o P (validateOffsetForType offset n name >>= f) := fun _ _ _ h =>
  hf _ _ _ (validateOffsetForType_bind_ok h).2.2

theorem HostFn.WritesAt.validateDataParam_bind {offset length : BitVec 32} {name : Option String}
    {f : Nat × Nat → HostFn σ β} (hf : WritesAt o P (f (offset.toNat, length.toNat))) :
    WritesAt o P (validateDataParam offset length name >>= f) := fun _ _ _ h =>
  hf _ _ _ (validateDataParam_bind_ok h).2.2.2

theorem check_validateOffsetForType (offset : BitVec 32) (n : Nat) (name : String) :
    Check (validateOffsetForType offset n name : HostFn σ Nat) := by
  intro s
  rw [validateOffsetForType_apply]
  split
  · exact .inr ⟨_, rfl⟩
  · split
    · exact .inl ⟨_, rfl⟩
    · exact .inr ⟨_, rfl⟩

theorem check_validateDataParam (offset length : BitVec 32) (name : Option String) :
    Check (validateDataParam offset length name : HostFn σ (Nat × Nat)) := by
  intro s
  rw [validateDataParam_apply]
  split
  · exact .inr ⟨_, rfl⟩
  · split
    · exact .inr ⟨_, rfl⟩
    · split
      · exact .inl ⟨_, rfl⟩
      · exact .inr ⟨_, rfl⟩

theorem check_readBytes (o l : Nat) : Check (readBytes o l : HostFn σ Bytes) := by
  intro s
  rw [readBytes_apply]
  split
  · exact .inl ⟨_, rfl⟩
  · exact .inr ⟨_, rfl⟩

theorem check_readFixed (o n : Nat) : Check (readFixed o n : HostFn σ (FixedBytes n)) := by
  intro s
  rw [readFixed_apply]
  split
  · exact .inl ⟨_, rfl⟩
  · exact .inr ⟨_, rfl⟩

theorem failsAt_validateOffsetForType {s : Instance σ} {offset : BitVec 32} (n : Nat)
    (name : String) (h : offset.toInt < 0) :
    FailsAt s (validateOffsetForType offset n name : HostFn σ Nat) :=
  ⟨_, by rw [validateOffsetForType_apply, if_pos h]⟩

theorem failsAt_validateDataParam {s : Instance σ} {offset length : BitVec 32}
    (name : Option String) (h : offset.toInt < 0 ∨ length.toInt < 0) :
    FailsAt s (validateDataParam offset length name : HostFn σ (Nat × Nat)) := by
  rw [FailsAt, validateDataParam_apply]
  by_cases ho : offset.toInt < 0
  · exact ⟨_, if_pos ho⟩
  · rw [if_neg ho, if_pos (h.resolve_left ho)]
    exact ⟨_, rfl⟩

/-- An offset that is negative or whose range the engine rejects fails its validation. -/
theorem failsAt_validateOffsetForType_of_invalid {s : Instance σ} {offset : BitVec 32} {n : Nat}
    (name : String) (h : ¬(0 ≤ offset.toInt ∧ s.memory.validateWasmAddr offset.toNat n = true)) :
    FailsAt s (validateOffsetForType offset n name : HostFn σ Nat) :=
  (check_validateOffsetForType _ _ _).failsAt_of_not_ok fun _ ha => by
    obtain ⟨-, rfl, ho, hv⟩ := validateOffsetForType_ok _ ha
    exact h ⟨ho, hv⟩

/-- A data range that is negative or that the engine rejects fails its validation. -/
theorem failsAt_validateDataParam_of_invalid {s : Instance σ} {offset length : BitVec 32}
    (name : Option String) (h : ¬(0 ≤ offset.toInt ∧ 0 ≤ length.toInt ∧
      s.memory.validateWasmAddr offset.toNat length.toNat = true)) :
    FailsAt s (validateDataParam offset length name : HostFn σ (Nat × Nat)) :=
  (check_validateDataParam _ _ _).failsAt_of_not_ok fun _ ha => by
    obtain ⟨-, rfl, ho, hl, hv⟩ := validateDataParam_ok _ ha
    exact h ⟨ho, hl, hv⟩

/-! ### The footprint of each primitive -/

namespace HostFunctions

variable (host : EvmHost σ)

/-- A fixed-size write followed by a returned value. -/
theorem writesAt_writeFixed_pure {n : Nat} {γ : Type} (o : Nat) (d : FixedBytes n)
    (hn : n < 2 ^ 32) (r : γ) :
    WritesAt o (· = n) (writeBytes o d.bytes >>= fun _ => (pure r : HostFn σ γ)) :=
  (writesAt_writeFixed o d hn).bind_keepsMemory fun _ => (readOnly_pure r).keepsMemory

theorem writesAt_writeHostValue {n : Nat} (typeName : String) (value : σ → FixedBytes n)
    (hn : n < 2 ^ 32) (resultOffset : BitVec 32) :
    WritesAt resultOffset.toNat (· = n) (writeHostValue typeName value resultOffset) :=
  .validateOffsetForType_bind <| readOnly_hostState.keepsMemory.bind_writesAt fun st =>
    writesAt_writeFixed _ (value st) hn

theorem writesAt_getExternalBalance (addrOffset resultOffset : BitVec 32) :
    WritesAt resultOffset.toNat (· = 32) (getExternalBalance host addrOffset resultOffset) :=
  (readOnly_validateAddressParam _).keepsMemory.bind_writesAt fun _ =>
    .validateOffsetForType_bind <| (readOnly_readAddress _).keepsMemory.bind_writesAt fun _ =>
      readOnly_hostState.keepsMemory.bind_writesAt fun _ => writesAt_writeFixed _ _ (by decide)

theorem writesAt_getBlockHash (blockNum : BitVec 64) (resultOffset : BitVec 32) :
    WritesAt resultOffset.toNat (· = 32) (getBlockHash host blockNum resultOffset) := by
  refine .validateOffsetForType_bind <| readOnly_hostState.keepsMemory.bind_writesAt fun _ => ?_
  dsimp only
  split
  · exact writesAt_writeFixed_pure _ _ (by decide) _
  · refine (readOnly_pure _).keepsMemory.bind_writesAt fun _ =>
      readOnly_hostState.keepsMemory.bind_writesAt fun _ => ?_
    split <;> exact writesAt_writeFixed_pure _ _ (by decide) _

theorem writesAt_hashPrimitive (name : String) (hash : σ → Bytes → Word)
    (inputOffset inputLength resultOffset : BitVec 32) :
    WritesAt resultOffset.toNat (· = 32)
      (hashPrimitive name hash inputOffset inputLength resultOffset) :=
  (readOnly_validateDataParam _ _ _).keepsMemory.bind_writesAt fun _ =>
    .validateOffsetForType_bind <| (readOnly_readBytesVec _ _).keepsMemory.bind_writesAt fun _ =>
      readOnly_hostState.keepsMemory.bind_writesAt fun _ => writesAt_writeFixed _ _ (by decide)

theorem writesAt_modPrimitive (op : σ → Word → Word → Word → Word)
    (aOffset bOffset nOffset resultOffset : BitVec 32) :
    WritesAt resultOffset.toNat (· = 32) (modPrimitive op aOffset bOffset nOffset resultOffset) :=
  (readOnly_validateBytes32Param _).keepsMemory.bind_writesAt fun _ =>
    (readOnly_validateBytes32Param _).keepsMemory.bind_writesAt fun _ =>
      (readOnly_validateBytes32Param _).keepsMemory.bind_writesAt fun _ =>
        .validateOffsetForType_bind <| (readOnly_readBytes32 _).keepsMemory.bind_writesAt fun _ =>
          (readOnly_readBytes32 _).keepsMemory.bind_writesAt fun _ =>
            (readOnly_readBytes32 _).keepsMemory.bind_writesAt fun _ =>
              readOnly_hostState.keepsMemory.bind_writesAt fun _ =>
                writesAt_writeFixed _ _ (by decide)

theorem writesAt_storageLoad (keyOffset resultOffset : BitVec 32) :
    WritesAt resultOffset.toNat (· = 32) (storageLoad host keyOffset resultOffset) :=
  (readOnly_readBytes32 _).keepsMemory.bind_writesAt fun _ =>
    readOnly_hostState.keepsMemory.bind_writesAt fun _ => writesAt_writeFixed _ _ (by decide)

theorem writesAt_getExternalCodeHash (addrOffset resultOffset : BitVec 32) :
    WritesAt resultOffset.toNat (· = 32) (getExternalCodeHash host addrOffset resultOffset) := by
  refine (readOnly_validateAddressParam _).keepsMemory.bind_writesAt fun _ =>
    .validateOffsetForType_bind <| (readOnly_readAddress _).keepsMemory.bind_writesAt fun _ =>
      readOnly_hostState.keepsMemory.bind_writesAt fun _ => ?_
  split <;> exact writesAt_writeFixed _ _ (by decide)

theorem writesAt_copyFrom (name negativeContext : String) (source : σ → Bytes)
    (resultOffset dataOffset length : BitVec 32) :
    WritesAt resultOffset.toNat (· ≤ length.toNat)
      (copyFrom name negativeContext source resultOffset dataOffset length) := by
  refine .validateDataParam_bind ?_
  dsimp only
  split
  · exact writesAt_throw _
  refine (readOnly_pure _).keepsMemory.bind_writesAt fun _ =>
    readOnly_hostState.keepsMemory.bind_writesAt fun _ => ?_
  exact (writesAt_writeBytes _ _ (by simp [length.isLt])).mono fun _ h => by simp [h]

theorem writesAt_codeCopy (resultOffset codeOffset length : BitVec 32) :
    WritesAt resultOffset.toNat (· ≤ length.toNat)
      (codeCopy host resultOffset codeOffset length) := by
  refine .validateDataParam_bind ?_
  dsimp only
  split
  · exact writesAt_throw _
  refine (readOnly_pure _).keepsMemory.bind_writesAt fun _ =>
    readOnly_hostState.keepsMemory.bind_writesAt fun _ => ?_
  have hlen : ∀ (l : Bytes) (k : Nat), l.length = length.toNat → (l.take k).length ≤ length.toNat :=
    fun l k hl => hl ▸ List.length_take_le' k l
  exact (writesAt_writeBytes _ _ ((hlen _ _ (length_copyBuffer _ _ _)).trans_lt length.isLt)).mono
    fun _ h => h ▸ hlen _ _ (length_copyBuffer _ _ _)

theorem writesAt_externalCodeCopy (addrOffset resultOffset codeOffset length : BitVec 32) :
    WritesAt resultOffset.toNat (· ≤ length.toNat)
      (externalCodeCopy host addrOffset resultOffset codeOffset length) := by
  refine (readOnly_validateAddressParam _).keepsMemory.bind_writesAt fun _ =>
    .validateDataParam_bind ?_
  dsimp only
  split
  · exact writesAt_throw _
  refine (readOnly_pure _).keepsMemory.bind_writesAt fun _ =>
    (readOnly_readAddress _).keepsMemory.bind_writesAt fun _ =>
      readOnly_hostState.keepsMemory.bind_writesAt fun _ => ?_
  split <;> exact (writesAt_writeBytes _ _ (by simp [length.isLt])).mono fun _ h => by simp [h]

theorem keepsMemory_finishCall (outcome : Option (σ × ContractCallResult)) :
    KeepsMemory (finishCall outcome) := by
  unfold finishCall
  split
  · exact (readOnly_throw _).keepsMemory
  · exact (keepsMemory_setHostState _).bind fun _ => (readOnly_pure _).keepsMemory

theorem keepsMemory_callWithValue (name : String)
    (method : σ → Address → Address → Word → Bytes → Option (σ × ContractCallResult))
    (addrOffset valueOffset dataOffset dataLength : BitVec 32) :
    KeepsMemory (callWithValue host name method addrOffset valueOffset dataOffset dataLength) :=
  (readOnly_validateAddressParam _).keepsMemory.bind fun _ =>
    (readOnly_validateBytes32Param _).keepsMemory.bind fun _ =>
      (readOnly_validateDataParam _ _ _).keepsMemory.bind fun _ =>
        (readOnly_readAddress _).keepsMemory.bind fun _ =>
          (readOnly_readBytes32 _).keepsMemory.bind fun _ =>
            (readOnly_readBytesVec _ _).keepsMemory.bind fun _ =>
              readOnly_hostState.keepsMemory.bind fun _ =>
                readOnly_hostState.keepsMemory.bind fun _ => keepsMemory_finishCall _

theorem keepsMemory_callWithoutValue (name : String)
    (method : σ → Address → Address → Bytes → Option (σ × ContractCallResult))
    (addrOffset dataOffset dataLength : BitVec 32) :
    KeepsMemory (callWithoutValue host name method addrOffset dataOffset dataLength) :=
  (readOnly_validateAddressParam _).keepsMemory.bind fun _ =>
    (readOnly_validateDataParam _ _ _).keepsMemory.bind fun _ =>
      (readOnly_readAddress _).keepsMemory.bind fun _ =>
        (readOnly_readBytesVec _ _).keepsMemory.bind fun _ =>
          readOnly_hostState.keepsMemory.bind fun _ =>
            readOnly_hostState.keepsMemory.bind fun _ => keepsMemory_finishCall _

/-- `create_contract` writes the new address, or the zero address, at the result offset,
after the host's creation. -/
theorem writesAt_createContract (valueOffset codeOffset codeLength dataOffset dataLength
    saltOffset isCreate2 resultOffset : BitVec 32) :
    WritesAt resultOffset.toNat (· = 20) (createContract host valueOffset codeOffset codeLength
      dataOffset dataLength saltOffset isCreate2 resultOffset) := by
  refine (readOnly_validateBytes32Param _).keepsMemory.bind_writesAt fun _ =>
    (readOnly_validateDataParam _ _ _).keepsMemory.bind_writesAt fun _ =>
      (readOnly_validateDataParam _ _ _).keepsMemory.bind_writesAt fun _ =>
        ((readOnly_validateBytes32Param _).map _ |>.ite _
          (readOnly_pure _)).keepsMemory.bind_writesAt fun _ =>
          .validateOffsetForType_bind <|
            (readOnly_readBytes32 _).keepsMemory.bind_writesAt fun _ =>
              (readOnly_readBytesVec _ _).keepsMemory.bind_writesAt fun _ =>
                (readOnly_readBytesVec _ _).keepsMemory.bind_writesAt fun _ =>
                  (ReadOnly.optionMapM readOnly_readBytes32 _).keepsMemory.bind_writesAt fun _ =>
                    readOnly_hostState.keepsMemory.bind_writesAt fun _ =>
                      readOnly_get.keepsMemory.bind_writesAt fun _ =>
                        readOnly_hostState.keepsMemory.bind_writesAt fun _ => ?_
  split
  · exact writesAt_throw _
  · exact (keepsMemory_setHostState _).bind_writesAt fun _ => writesAt_writeFixed_pure _ _
      (by decide) _

theorem keepsMemory_terminate (name : String) (method : σ → Bytes → σ) (code : Int)
    (dataOffset length : BitVec 32) : KeepsMemory (terminate name method code dataOffset length) :=
  (readOnly_validateDataParam _ _ _).keepsMemory.bind fun _ =>
    (readOnly_readBytesVec _ _).keepsMemory.bind fun _ =>
      readOnly_hostState.keepsMemory.bind fun _ =>
        (keepsMemory_setHostState _).bind fun _ => keepsMemory_exit _

theorem keepsMemory_invalid : KeepsMemory (invalid host) :=
  readOnly_hostState.keepsMemory.bind fun _ =>
    (keepsMemory_setHostState _).bind fun _ => keepsMemory_exit _

theorem keepsMemory_selfDestruct (addrOffset : BitVec 32) :
    KeepsMemory (selfDestruct host addrOffset) :=
  (readOnly_validateAddressParam _).keepsMemory.bind fun _ =>
    (readOnly_readAddress _).keepsMemory.bind fun _ =>
      readOnly_hostState.keepsMemory.bind fun _ =>
        (keepsMemory_setHostState _).bind fun _ => keepsMemory_exit _

theorem keepsMemory_storageStore (keyOffset valueOffset : BitVec 32) :
    KeepsMemory (storageStore host keyOffset valueOffset) :=
  (readOnly_readBytes32 _).keepsMemory.bind fun _ =>
    (readOnly_readBytes32 _).keepsMemory.bind fun _ =>
      readOnly_hostState.keepsMemory.bind fun _ => keepsMemory_setHostState _

theorem keepsMemory_emitLogEvent (dataOffset length numTopics t1 t2 t3 t4 : BitVec 32) :
    KeepsMemory (emitLogEvent host dataOffset length numTopics t1 t2 t3 t4) := by
  unfold emitLogEvent
  split
  · exact (readOnly_throw _).keepsMemory
  · exact (readOnly_pure _).keepsMemory.bind fun _ =>
      (readOnly_validateDataParam _ _ _).keepsMemory.bind fun _ =>
        (readOnly_readBytesVec _ _).keepsMemory.bind fun _ =>
          (ReadOnly.listMapM readOnly_readTopic _).keepsMemory.bind fun _ =>
            readOnly_hostState.keepsMemory.bind fun _ =>
              readOnly_hostState.keepsMemory.bind fun _ => keepsMemory_setHostState _

/-! ### The value each fixed-size output receives -/

variable {s s' : Instance σ} {u : Unit}

/-- A successful `writeHostValue` wrote the host's value at the result offset. -/
theorem writeHostValue_ok {n : Nat} {typeName : String} {value : σ → FixedBytes n}
    {resultOffset : BitVec 32} (hn : n < 2 ^ 32)
    (h : writeHostValue typeName value resultOffset s = .ok u s') :
    s' = { s with memory := s.memory.overwrite resultOffset.toNat (value s.extraCtx).bytes } := by
  obtain ⟨-, hv, h⟩ := validateOffsetForType_bind_ok h
  rw [hostState_bind, writeBytes_fixed_apply s _ _ hn hv] at h
  cases h
  rfl

/-- A successful `get_external_balance` wrote the host's balance of the address it read. -/
theorem getExternalBalance_ok {addrOffset resultOffset : BitVec 32}
    (h : getExternalBalance host addrOffset resultOffset s = .ok u s') :
    ∃ address : Address, address.bytes = (s.memory.bytes.drop addrOffset.toNat).take 20 ∧
      s' = { s with memory := (s.memory.overwrite resultOffset.toNat
        (host.getExternalBalance s.extraCtx address).bytes) } := by
  obtain ⟨-, hav, h⟩ := validateOffsetForType_bind_ok h
  obtain ⟨-, hrv, h⟩ := validateOffsetForType_bind_ok h
  rw [readAddress, bind_of_ok (readFixed_of_valid _ hav), hostState_bind, writeBytes32,
    writeBytes_fixed_apply s _ _ (by decide) hrv] at h
  cases h
  exact ⟨_, rfl, rfl⟩

/-- A successful `get_external_code_hash` wrote the host's hash of the address it read, or
the zero word for an account the host does not know. -/
theorem getExternalCodeHash_ok {addrOffset resultOffset : BitVec 32}
    (h : getExternalCodeHash host addrOffset resultOffset s = .ok u s') :
    ∃ address : Address, address.bytes = (s.memory.bytes.drop addrOffset.toNat).take 20 ∧
      s' = { s with memory := (s.memory.overwrite resultOffset.toNat
        ((host.getExternalCodeHash s.extraCtx address).getD (.zero 32)).bytes) } := by
  obtain ⟨-, hav, h⟩ := validateOffsetForType_bind_ok h
  obtain ⟨-, hrv, h⟩ := validateOffsetForType_bind_ok h
  rw [readAddress, bind_of_ok (readFixed_of_valid _ hav), hostState_bind] at h
  rcases hget : host.getExternalCodeHash s.extraCtx ⟨_, length_read_of_valid s hav⟩ with _ | hash <;>
    simp only [hget, writeBytes32, writeBytes_fixed_apply s _ _ (by decide) hrv] at h <;>
    cases h <;> exact ⟨_, rfl, by rw [hget]; rfl⟩

/-- A successful `sha256` or `keccak256` wrote the host's hash of the input it read. -/
theorem hashPrimitive_ok {name : String} {hash : σ → Bytes → Word}
    {inputOffset inputLength resultOffset : BitVec 32}
    (h : hashPrimitive name hash inputOffset inputLength resultOffset s = .ok u s') :
    s' = { s with memory := (s.memory.overwrite resultOffset.toNat
      (hash s.extraCtx ((s.memory.bytes.drop inputOffset.toNat).take inputLength.toNat)).bytes) } := by
  obtain ⟨-, -, hdv, h⟩ := validateDataParam_bind_ok h
  obtain ⟨-, hrv, h⟩ := validateOffsetForType_bind_ok h
  rw [readBytesVec, bind_of_ok (readBytes_of_valid _ hdv), hostState_bind, writeBytes32,
    writeBytes_fixed_apply s _ _ (by decide) hrv] at h
  cases h
  rfl

/-- A successful `get_block_hash` wrote the word of `blockHashSpec`. -/
theorem getBlockHash_ok {blockNum : BitVec 64} {resultOffset : BitVec 32} {a : BitVec 32}
    (h : getBlockHash host blockNum resultOffset s = .ok a s') :
    s' = { s with memory := (s.memory.overwrite resultOffset.toNat
      (blockHashSpec host s.extraCtx blockNum).1.bytes) } := by
  obtain ⟨ho, hrv, -⟩ := validateOffsetForType_bind_ok h
  rw [getBlockHash_of_valid host blockNum ho hrv] at h
  cases h
  rfl

end HostFunctions

/-! ### The declared outputs -/

/-- The guest memory a primitive declares as its output. -/
inductive OutputRange where
  /-- Nothing in guest memory. -/
  | none
  /-- An address or a word: `width` bytes at `offset`. -/
  | fixed (offset width : Nat)
  /-- The destination of a copy: up to `length` bytes at `offset`. -/
  | buffer (offset length : Nat)

/-- The first byte of the range. -/
def OutputRange.offset : OutputRange → Nat
  | .none => 0
  | .fixed o _ | .buffer o _ => o

/-- The number of bytes of the range. -/
def OutputRange.width : OutputRange → Nat
  | .none => 0
  | .fixed _ w | .buffer _ w => w

/-- The declared output of each primitive: its result offset with the width of an address or
a word, the destination of a copy, or nothing. -/
def HostCall.outputRange : HostCall → OutputRange
  | .getAddress r | .getCaller r | .getTxOrigin r | .getBlockCoinbase r
  | .createContract _ _ _ _ _ _ _ r => .fixed r.toNat 20
  | .getCallValue r | .getChainId r | .getBlockPrevRandao r | .getBaseFee r | .getBlobBaseFee r
  | .getTxGasPrice r | .getExternalBalance _ r | .getBlockHash _ r | .getExternalCodeHash _ r
  | .storageLoad _ r | .sha256 _ _ r | .keccak256 _ _ r | .addmod _ _ _ r | .mulmod _ _ _ r
  | .expmod _ _ _ r => .fixed r.toNat 32
  | .callDataCopy r _ l | .codeCopy r _ l | .returnDataCopy r _ l | .externalCodeCopy _ r _ l =>
    .buffer r.toNat l.toNat
  | _ => .none

/-- The value a primitive with an address or word output writes there, as a function of the
instance before the call: the host's answer, on the arguments the primitive read from guest
memory. Nothing is asked of the other primitives. -/
def HostCall.Produces (host : EvmHost σ) (s : Instance σ) (value : Bytes) : HostCall → Prop
  | .getAddress _ => value = (host.getAddress s.extraCtx).bytes
  | .getCaller _ => value = (host.getCaller s.extraCtx).bytes
  | .getTxOrigin _ => value = (host.getTxOrigin s.extraCtx).bytes
  | .getBlockCoinbase _ => value = (host.getBlockCoinbase s.extraCtx).bytes
  | .getCallValue _ => value = (host.getCallValue s.extraCtx).bytes
  | .getChainId _ => value = (host.getChainId s.extraCtx).bytes
  | .getBlockPrevRandao _ => value = (host.getBlockPrevRandao s.extraCtx).bytes
  | .getBaseFee _ => value = (host.getBaseFee s.extraCtx).bytes
  | .getBlobBaseFee _ => value = (host.getBlobBaseFee s.extraCtx).bytes
  | .getTxGasPrice _ => value = (host.getTxGasPrice s.extraCtx).bytes
  | .getExternalBalance a _ => ∃ address : Address,
    address.bytes = (s.memory.bytes.drop a.toNat).take 20 ∧
      value = (host.getExternalBalance s.extraCtx address).bytes
  | .getBlockHash n _ => value = (blockHashSpec host s.extraCtx n).1.bytes
  | .getExternalCodeHash a _ => ∃ address : Address,
    address.bytes = (s.memory.bytes.drop a.toNat).take 20 ∧
      value = ((host.getExternalCodeHash s.extraCtx address).getD (.zero 32)).bytes
  | .storageLoad k _ => ∃ key : Word, key.bytes = (s.memory.bytes.drop k.toNat).take 32 ∧
    value = (host.storageLoad s.extraCtx key).bytes
  | .sha256 d l _ => value = (host.sha256 s.extraCtx ((s.memory.bytes.drop d.toNat).take l.toNat)).bytes
  | .keccak256 d l _ =>
    value = (host.keccak256 s.extraCtx ((s.memory.bytes.drop d.toNat).take l.toNat)).bytes
  | .addmod a b n _ => ∃ x y m : Word, x.bytes = (s.memory.bytes.drop a.toNat).take 32 ∧
    y.bytes = (s.memory.bytes.drop b.toNat).take 32 ∧
    m.bytes = (s.memory.bytes.drop n.toNat).take 32 ∧ value = (host.addmod s.extraCtx x y m).bytes
  | .mulmod a b n _ => ∃ x y m : Word, x.bytes = (s.memory.bytes.drop a.toNat).take 32 ∧
    y.bytes = (s.memory.bytes.drop b.toNat).take 32 ∧
    m.bytes = (s.memory.bytes.drop n.toNat).take 32 ∧ value = (host.mulmod s.extraCtx x y m).bytes
  | .expmod a b n _ => ∃ x y m : Word, x.bytes = (s.memory.bytes.drop a.toNat).take 32 ∧
    y.bytes = (s.memory.bytes.drop b.toNat).take 32 ∧
    m.bytes = (s.memory.bytes.drop n.toNat).take 32 ∧ value = (host.expmod s.extraCtx x y m).bytes
  | .createContract v c cl d dl _ c2 _ => ∃ (callValue : Word) (salt : Option Word) (st : σ)
    (result : ContractCreateResult), callValue.bytes = (s.memory.bytes.drop v.toNat).take 32 ∧
      host.createContract s.extraCtx (host.getAddress s.extraCtx) callValue
        ((s.memory.bytes.drop c.toNat).take cl.toNat) ((s.memory.bytes.drop d.toNat).take dl.toNat)
        (BitVec.ofNat 64 s.gasLeft) salt (c2 ≠ 0) = some (st, result) ∧
      value = (result.contractAddress.getD (.zero 20)).bytes
  | _ => True

/-- Memory after a successful call against the declared output: as it was; the whole range,
inside memory, replaced by one value (which value, `HostCall.Produces` says); or a part of
the range from its start replaced. -/
def OutputRange.Allows : OutputRange → List UInt8 → List UInt8 → Prop
  | .none, before, after => after = before
  | .fixed o w, before, after =>
    o + w ≤ before.length ∧ ∃ v : Bytes, v.length = w ∧ after = overwrite before o v
  | .buffer o l, before, after =>
    ∃ d : Bytes, d.length ≤ l ∧ o + d.length ≤ before.length ∧ after = overwrite before o d

namespace OutputRange.Allows

variable {r : OutputRange} {before after : List UInt8}

theorem length_eq (h : r.Allows before after) : after.length = before.length := by
  cases r with
  | none => exact congrArg List.length h
  | fixed o w => obtain ⟨-, v, -, rfl⟩ := h; exact length_overwrite _ _ _
  | buffer o l => obtain ⟨d, -, -, rfl⟩ := h; exact length_overwrite _ _ _

/-- No byte outside the declared range changes. -/
theorem getElem?_eq (h : r.Allows before after) {i : Nat}
    (hi : ¬(r.offset ≤ i ∧ i < r.offset + r.width)) : after[i]? = before[i]? := by
  cases r with
  | none => rw [h]
  | fixed o w =>
    obtain ⟨-, v, hv, rfl⟩ := h
    exact getElem?_overwrite_of_not_mem (by simp only [offset, width] at hi; omega)
  | buffer o l =>
    obtain ⟨d, hd, -, rfl⟩ := h
    exact getElem?_overwrite_of_not_mem (by simp only [offset, width] at hi; omega)

end OutputRange.Allows

section Allows

variable {α : Type} {x : HostFn σ α} {s s' : Instance σ} {a : α}

theorem HostFn.KeepsMemory.allows (hx : KeepsMemory x) (h : x s = .ok a s') :
    OutputRange.none.Allows s.memory.bytes s'.memory.bytes := by
  rw [OutputRange.Allows, hx _ _ _ h]

theorem HostFn.WritesAt.allows_fixed {w : Nat} (hx : WritesAt o (· = w) x)
    (h : x s = .ok a s') : (OutputRange.fixed o w).Allows s.memory.bytes s'.memory.bytes := by
  obtain ⟨d, rfl, hin, he⟩ := hx _ _ _ h
  exact ⟨hin, d, rfl, he⟩

theorem HostFn.WritesAt.allows_buffer {l : Nat} (hx : WritesAt o (· ≤ l) x)
    (h : x s = .ok a s') : (OutputRange.buffer o l).Allows s.memory.bytes s'.memory.bytes :=
  hx _ _ _ h

end Allows

open HostFunctions in
/-- A successful call of any primitive changes guest memory only as its declared output
allows. -/
theorem run_allows (host : EvmHost σ) (c : HostCall) {s s' : Instance σ} {v : Option HostValue}
    (h : c.run host s = .ok v s') : c.outputRange.Allows s.memory.bytes s'.memory.bytes := by
  cases c with
  | getAddress | getCaller | getTxOrigin | getBlockCoinbase | getCallValue | getChainId
  | getBlockPrevRandao | getBaseFee | getBlobBaseFee | getTxGasPrice =>
    exact ((writesAt_writeHostValue _ _ (by decide) _).map _).allows_fixed h
  | getExternalBalance => exact ((writesAt_getExternalBalance host _ _).map _).allows_fixed h
  | getBlockHash => exact ((writesAt_getBlockHash host _ _).map _).allows_fixed h
  | getExternalCodeHash => exact ((writesAt_getExternalCodeHash host _ _).map _).allows_fixed h
  | storageLoad => exact ((writesAt_storageLoad host _ _).map _).allows_fixed h
  | sha256 | keccak256 => exact ((writesAt_hashPrimitive _ _ _ _ _).map _).allows_fixed h
  | addmod | mulmod | expmod => exact ((writesAt_modPrimitive _ _ _ _ _).map _).allows_fixed h
  | createContract =>
    exact ((writesAt_createContract host _ _ _ _ _ _ _ _).map _).allows_fixed h
  | callDataCopy | returnDataCopy =>
    exact ((writesAt_copyFrom _ _ _ _ _ _).map _).allows_buffer h
  | codeCopy => exact ((writesAt_codeCopy host _ _ _).map _).allows_buffer h
  | externalCodeCopy => exact ((writesAt_externalCodeCopy host _ _ _ _).map _).allows_buffer h
  | getBlockNumber | getBlockTimestamp | getBlockGasLimit | getCallDataSize | getCodeSize
  | getReturnDataSize => exact ((readOnly_query _).keepsMemory.map _).allows h
  | getGasLeft => exact ((readOnly_getGasLeft host).keepsMemory.map _).allows h
  | getExternalCodeSize =>
    exact ((readOnly_getExternalCodeSize host _).keepsMemory.map _).allows h
  | storageStore => exact ((keepsMemory_storageStore host _ _).map _).allows h
  | callContract | callCode => exact ((keepsMemory_callWithValue host _ _ _ _ _ _).map _).allows h
  | callDelegate | callStatic =>
    exact ((keepsMemory_callWithoutValue host _ _ _ _ _).map _).allows h
  | finish | revert => exact ((keepsMemory_terminate _ _ _ _ _).map _).allows h
  | invalid => exact ((keepsMemory_invalid host).map _).allows h
  | selfDestruct => exact ((keepsMemory_selfDestruct host _).map _).allows h
  | emitLogEvent => exact ((keepsMemory_emitLogEvent host _ _ _ _ _ _ _).map _).allows h

open HostFunctions in
/-- A successful call of a primitive with an address or word output wrote there the value the
primitive produces (`HostCall.Produces`), of the output's width. -/
theorem run_produces (host : EvmHost σ) (c : HostCall) {s s' : Instance σ}
    {v : Option HostValue} (h : c.run host s = .ok v s') {o w : Nat}
    (hc : c.outputRange = .fixed o w) :
    ∃ value : Bytes, value.length = w ∧ c.Produces host s value ∧
      s'.memory.bytes = overwrite s.memory.bytes o value := by
  -- every primitive with a fixed output range maps its body's result to the guest's value
  cases c <;> cases hc <;> obtain ⟨_, h, -⟩ := map_eq_ok h
  case getAddress | getCaller | getTxOrigin | getBlockCoinbase | getCallValue | getChainId
    | getBlockPrevRandao | getBaseFee | getBlobBaseFee | getTxGasPrice =>
    obtain rfl := writeHostValue_ok (by decide) h
    exact ⟨_, FixedBytes.length_eq _, rfl, rfl⟩
  case getExternalBalance =>
    obtain ⟨address, ha, rfl⟩ := getExternalBalance_ok host h
    exact ⟨_, FixedBytes.length_eq _, ⟨address, ha, rfl⟩, rfl⟩
  case getBlockHash =>
    obtain rfl := getBlockHash_ok host h
    exact ⟨_, FixedBytes.length_eq _, rfl, rfl⟩
  case getExternalCodeHash =>
    obtain ⟨address, ha, rfl⟩ := getExternalCodeHash_ok host h
    exact ⟨_, FixedBytes.length_eq _, ⟨address, ha, rfl⟩, rfl⟩
  case storageLoad =>
    obtain ⟨key, hk, rfl⟩ := storageLoad_ok h
    exact ⟨_, FixedBytes.length_eq _, ⟨key, hk, rfl⟩, rfl⟩
  case sha256 | keccak256 =>
    obtain rfl := hashPrimitive_ok h
    exact ⟨_, FixedBytes.length_eq _, rfl, rfl⟩
  case addmod | mulmod | expmod =>
    obtain ⟨a, b, n, ha, hb, hn, -, rfl⟩ := modPrimitive_ok h
    exact ⟨_, FixedBytes.length_eq _, ⟨a, b, n, ha, hb, hn, rfl⟩, rfl⟩
  case createContract =>
    obtain ⟨value, salt, st, result, hv, hm, -, rfl, -⟩ := createContract_ok h
    exact ⟨_, FixedBytes.length_eq _, ⟨value, salt, st, result, hv, hm, rfl⟩, rfl⟩

/-- The memory footprint of the catalogue: when a primitive returns `Ok`, guest memory keeps
its size and every byte outside the primitive's declared output range. An address or word
output lies inside memory and is replaced whole by the value the primitive produces, the
host's answer on the arguments read before the call, also when it overlaps an input. -/
theorem primitive_memory_footprint :
    ∀ (σ : Type) (host : EvmHost σ) (c : HostCall) (inst inst' : Instance σ)
      (v : Option HostValue), c.run host inst = .ok v inst' →
      inst'.memory.bytes.length = inst.memory.bytes.length ∧
      (∀ i, ¬(c.outputRange.offset ≤ i ∧ i < c.outputRange.offset + c.outputRange.width) →
        inst'.memory.bytes[i]? = inst.memory.bytes[i]?) ∧
      (∀ o w, c.outputRange = .fixed o w → o + w ≤ inst.memory.bytes.length ∧
        ∃ value : Bytes, value.length = w ∧ c.Produces host inst value ∧
          inst'.memory.bytes = inst.memory.bytes.take o ++ value ++ inst.memory.bytes.drop (o + w)) := by
  intro σ host c inst inst' v h
  have hc := run_allows host c h
  refine ⟨hc.length_eq, fun i hi => hc.getElem?_eq hi, fun o w ho => ?_⟩
  rw [ho] at hc
  obtain ⟨value, hlen, hprod, hmem⟩ := run_produces host c h ho
  exact ⟨hc.1, value, hlen, hprod, by rw [hmem, overwrite_eq_splice _ _ _ (hlen ▸ hc.1), hlen]⟩

/-- `addmod` with its result on its first operand, in the scenario: the word at `0` becomes
the host's `addmod` of the words read before the call, and every byte past it keeps its
value. -/
theorem primitive_memory_footprint_at_overlapping_addmod :
    ∃ (v : Option HostValue) (inst' : Instance MockContext),
      (HostCall.addmod 0 32 32 0).run (mockHost scenarioEnv (runEntry scenarioEnv 1))
        (.start scenarioMemory scenarioContext 100) = .ok v inst' ∧
      (∀ i, 32 ≤ i → inst'.memory.bytes[i]? = scenarioMemory.bytes[i]?) ∧
      ∃ value : Bytes, (HostCall.addmod 0 32 32 0).Produces
          (mockHost scenarioEnv (runEntry scenarioEnv 1))
          (.start scenarioMemory scenarioContext 100) value ∧
        inst'.memory.bytes = value ++ scenarioMemory.bytes.drop 32 := by
  obtain ⟨v, inst', h⟩ : ∃ v inst', (HostCall.addmod 0 32 32 0).run
      (mockHost scenarioEnv (runEntry scenarioEnv 1)) (.start scenarioMemory scenarioContext 100) =
        .ok v inst' := ⟨_, _, rfl⟩
  have hf := primitive_memory_footprint _ _ _ _ _ _ h
  obtain ⟨-, value, -, hprod, hmem⟩ := hf.2.2 0 32 rfl
  exact ⟨v, inst', h, fun i hi => hf.2.1 i (show ¬(0 ≤ i ∧ i < 0 + 32) by omega), value, hprod,
    by simpa only [List.take_zero, List.nil_append, Nat.zero_add] using hmem⟩

/-- The output range of the call a wrapper makes is the primitive's own. -/
theorem HostCall.outputRange_callee (c : HostCall) : c.callee.outputRange = c.outputRange := by
  cases c <;> rfl

/-- A wrapper hands on its function's final instance when the function succeeds. When it
fails, the function changed nothing and the wrapper sets at most the exception, so memory is
as before. -/
theorem Extern.wrap_memory {host : EvmHost σ} {k : WrapperKind} {f : HostFn σ (Option HostValue)}
    (hf : Atomic host f) {inst inst' : Instance σ} {v : Option HostValue}
    (h : Extern.wrap k f inst = some (v, inst')) :
    (∃ a, f inst = .ok a inst') ∨ inst'.memory = inst.memory := by
  cases hfi : f inst with
  | ok a i =>
    refine .inl ⟨a, ?_⟩
    cases k <;> simp only [Extern.wrap, hfi, Option.some.injEq, Prod.mk.injEq] at h <;>
      rw [h.2]
  | error e i =>
    obtain rfl := (hf inst).error_eq e i hfi
    refine .inr ?_
    cases k <;> cases e <;>
      simp only [Extern.wrap, hfi, Option.some.injEq, Prod.mk.injEq, reduceCtorEq] at h <;>
      rw [← h.2]

/-- The footprint as the guest sees it: whatever a registered primitive's wrapper returns, on
success, on an `Err` turned into exception `9` or an in-band code, or with a scalar, guest
memory keeps its size and every byte outside the primitive's declared output range. When the
function behind the wrapper returned `Err`, no byte changed at all. -/
theorem dispatch_memory_footprint :
    ∀ (σ : Type) (host : EvmHost σ) (c : HostCall) (inst inst' : Instance σ)
      (v : Option HostValue), Extern.dispatch host c inst = some (v, inst') →
      inst'.memory.bytes.length = inst.memory.bytes.length ∧
      (∀ i, ¬(c.outputRange.offset ≤ i ∧ i < c.outputRange.offset + c.outputRange.width) →
        inst'.memory.bytes[i]? = inst.memory.bytes[i]?) ∧
      (∀ (e : HostFunctionError) (s : Instance σ), c.callee.run host inst = .error (.error e) s →
        inst'.memory.bytes = inst.memory.bytes) := by
  intro σ host c inst inst' v h
  rcases Extern.wrap_memory (atomic_run host c.callee) (Extern.dispatch_eq_wrap host c inst ▸ h)
    with ⟨a, hrun⟩ | hmem
  · have hc := run_allows host c.callee hrun
    rw [HostCall.outputRange_callee] at hc
    refine ⟨hc.length_eq, fun i hi => hc.getElem?_eq hi, fun e s herr => ?_⟩
    rw [herr] at hrun
    cases hrun
  · exact ⟨by rw [hmem], fun i _ => by rw [hmem], fun _ _ _ => by rw [hmem]⟩

/-- In the scenario, `addmod` with its result word past the end of memory: the function
fails, the wrapper sets exception `9`, and guest memory is as it was. -/
theorem dispatch_memory_footprint_at_rejected_addmod :
    ∃ (v : Option HostValue) (inst' : Instance MockContext),
      Extern.dispatch (mockHost scenarioEnv (runEntry scenarioEnv 1)) (.addmod 0 32 32 48)
        (.start scenarioMemory scenarioContext 100) = some (v, inst') ∧
      inst'.exception = some 9 ∧ inst'.memory.bytes = scenarioMemory.bytes :=
  ⟨_, _, rfl, rfl, (dispatch_memory_footprint _ (mockHost scenarioEnv (runEntry scenarioEnv 1))
    (.addmod 0 32 32 48) (.start scenarioMemory scenarioContext 100) _ _ rfl).2.2 _ _ rfl⟩

/-! ### Negative offsets -/

/-- The `i32` arguments a primitive uses as guest-memory offsets or lengths: its result,
input and source offsets, its data lengths, the salt offset of a CREATE2, and the offsets of
the topics `emit_log_event` reads. -/
def HostCall.memoryArgs : HostCall → List (BitVec 32)
  | .getAddress r | .getCaller r | .getCallValue r | .getChainId r | .getTxOrigin r
  | .getBlockCoinbase r | .getBlobBaseFee r | .getBaseFee r | .getTxGasPrice r
  | .getBlockPrevRandao r | .getBlockHash _ r | .getExternalCodeSize r | .selfDestruct r => [r]
  | .getExternalBalance a r | .getExternalCodeHash a r | .storageStore a r
  | .storageLoad a r => [a, r]
  | .callDataCopy r d l | .returnDataCopy r d l | .codeCopy r d l => [r, d, l]
  | .externalCodeCopy a r c l => [a, r, c, l]
  | .sha256 d l r | .keccak256 d l r => [d, l, r]
  | .addmod a b n r | .mulmod a b n r | .expmod a b n r => [a, b, n, r]
  | .callContract _ a v d l | .callCode _ a v d l => [a, v, d, l]
  | .callDelegate _ a d l | .callStatic _ a d l => [a, d, l]
  | .createContract v c cl d dl s c2 r => [v, c, cl, d, dl, r] ++ if c2 ≠ 0 then [s] else []
  | .finish d l | .revert d l => [d, l]
  | .emitLogEvent d l n t1 t2 t3 t4 => d :: l :: [t1, t2, t3, t4].take n.toNat
  | _ => []

namespace HostFunctions

variable (host : EvmHost σ) {s : Instance σ} {x : BitVec 32}

/-- The validators that check an offset for a type. -/
theorem failsAt_validate_bind {offset : BitVec 32} {n : Nat} {name : String}
    {f : Nat → HostFn σ β} (h : offset.toInt < 0) :
    FailsAt s (validateOffsetForType offset n name >>= f) :=
  (failsAt_validateOffsetForType n name h).bind

theorem check_readTopic (topicOffset : BitVec 32) :
    Check (readTopic topicOffset : HostFn σ Word) := by
  unfold readTopic
  split
  · exact (check_validateOffsetForType _ _ _).bind fun _ => check_readFixed _ _
  · exact check_pure _

/-- A topic at a non-zero offset that is negative or outside memory fails its validation. -/
theorem failsAt_readTopic {topicOffset : BitVec 32} (h0 : topicOffset ≠ 0)
    (h : ¬(0 ≤ topicOffset.toInt ∧ s.memory.validateWasmAddr topicOffset.toNat 32 = true)) :
    FailsAt s (readTopic topicOffset : HostFn σ Word) := by
  unfold readTopic
  rw [if_pos h0]
  exact (failsAt_validateOffsetForType_of_invalid _ h).bind

theorem failsAt_writeHostValue {n : Nat} (typeName : String) (value : σ → FixedBytes n)
    {resultOffset : BitVec 32} (h : resultOffset.toInt < 0) :
    FailsAt s (writeHostValue typeName value resultOffset) :=
  failsAt_validate_bind h

theorem failsAt_getExternalBalance {addrOffset resultOffset : BitVec 32}
    (hx : x ∈ [addrOffset, resultOffset]) (h : x.toInt < 0) :
    FailsAt s (getExternalBalance host addrOffset resultOffset) := by
  simp only [List.mem_cons, List.mem_singleton, List.not_mem_nil, or_false] at hx
  rcases hx with rfl | rfl
  · exact failsAt_validate_bind h
  · exact (check_validateOffsetForType _ _ _).failsAt_bind fun _ => failsAt_validate_bind h

theorem failsAt_getBlockHash (blockNum : BitVec 64) {resultOffset : BitVec 32}
    (h : resultOffset.toInt < 0) : FailsAt s (getBlockHash host blockNum resultOffset) :=
  failsAt_validate_bind h

theorem failsAt_getExternalCodeSize {addrOffset : BitVec 32} (h : addrOffset.toInt < 0) :
    FailsAt s (getExternalCodeSize host addrOffset) :=
  failsAt_validate_bind h

theorem failsAt_getExternalCodeHash {addrOffset resultOffset : BitVec 32}
    (hx : x ∈ [addrOffset, resultOffset]) (h : x.toInt < 0) :
    FailsAt s (getExternalCodeHash host addrOffset resultOffset) := by
  simp only [List.mem_cons, List.mem_singleton, List.not_mem_nil, or_false] at hx
  rcases hx with rfl | rfl
  · exact failsAt_validate_bind h
  · exact (check_validateOffsetForType _ _ _).failsAt_bind fun _ => failsAt_validate_bind h

theorem failsAt_copyFrom (name negativeContext : String) (source : σ → Bytes)
    {resultOffset dataOffset length : BitVec 32} (hx : x ∈ [resultOffset, dataOffset, length])
    (h : x.toInt < 0) :
    FailsAt s (copyFrom name negativeContext source resultOffset dataOffset length) := by
  simp only [List.mem_cons, List.mem_singleton, List.not_mem_nil, or_false] at hx
  rcases hx with rfl | rfl | rfl
  · exact (failsAt_validateDataParam _ (.inl h)).bind
  · refine (check_validateDataParam _ _ _).failsAt_bind fun _ => ?_
    dsimp only
    rw [if_pos h]
    exact failsAt_throw _
  · exact (failsAt_validateDataParam _ (.inr h)).bind

theorem failsAt_codeCopy {resultOffset codeOffset length : BitVec 32}
    (hx : x ∈ [resultOffset, codeOffset, length]) (h : x.toInt < 0) :
    FailsAt s (codeCopy host resultOffset codeOffset length) := by
  simp only [List.mem_cons, List.mem_singleton, List.not_mem_nil, or_false] at hx
  rcases hx with rfl | rfl | rfl
  · exact (failsAt_validateDataParam _ (.inl h)).bind
  · refine (check_validateDataParam _ _ _).failsAt_bind fun _ => ?_
    dsimp only
    rw [if_pos h]
    exact failsAt_throw _
  · exact (failsAt_validateDataParam _ (.inr h)).bind

theorem failsAt_externalCodeCopy {addrOffset resultOffset codeOffset length : BitVec 32}
    (hx : x ∈ [addrOffset, resultOffset, codeOffset, length]) (h : x.toInt < 0) :
    FailsAt s (externalCodeCopy host addrOffset resultOffset codeOffset length) := by
  simp only [List.mem_cons, List.mem_singleton, List.not_mem_nil, or_false] at hx
  rcases hx with rfl | rfl | rfl | rfl
  · exact failsAt_validate_bind h
  · exact (check_validateOffsetForType _ _ _).failsAt_bind fun _ =>
      (failsAt_validateDataParam _ (.inl h)).bind
  · refine (check_validateOffsetForType _ _ _).failsAt_bind fun _ =>
      (check_validateDataParam _ _ _).failsAt_bind fun _ => ?_
    dsimp only
    rw [if_pos h]
    exact failsAt_throw _
  · exact (check_validateOffsetForType _ _ _).failsAt_bind fun _ =>
      (failsAt_validateDataParam _ (.inr h)).bind

theorem failsAt_hashPrimitive (name : String) (hash : σ → Bytes → Word)
    {inputOffset inputLength resultOffset : BitVec 32}
    (hx : x ∈ [inputOffset, inputLength, resultOffset]) (h : x.toInt < 0) :
    FailsAt s (hashPrimitive name hash inputOffset inputLength resultOffset) := by
  simp only [List.mem_cons, List.mem_singleton, List.not_mem_nil, or_false] at hx
  rcases hx with rfl | rfl | rfl
  · exact (failsAt_validateDataParam _ (.inl h)).bind
  · exact (failsAt_validateDataParam _ (.inr h)).bind
  · exact (check_validateDataParam _ _ _).failsAt_bind fun _ => failsAt_validate_bind h

theorem failsAt_modPrimitive (op : σ → Word → Word → Word → Word)
    {aOffset bOffset nOffset resultOffset : BitVec 32}
    (hx : x ∈ [aOffset, bOffset, nOffset, resultOffset]) (h : x.toInt < 0) :
    FailsAt s (modPrimitive op aOffset bOffset nOffset resultOffset) := by
  have hv : ∀ o, Check (validateOffsetForType o 32 "bytes32" : HostFn σ Nat) :=
    fun o => check_validateOffsetForType o 32 "bytes32"
  simp only [List.mem_cons, List.mem_singleton, List.not_mem_nil, or_false] at hx
  rcases hx with rfl | rfl | rfl | rfl
  · exact failsAt_validate_bind h
  · exact (hv _).failsAt_bind fun _ => failsAt_validate_bind h
  · exact (hv _).failsAt_bind fun _ => (hv _).failsAt_bind fun _ => failsAt_validate_bind h
  · exact (hv _).failsAt_bind fun _ => (hv _).failsAt_bind fun _ =>
      (hv _).failsAt_bind fun _ => failsAt_validate_bind h

theorem failsAt_callWithValue (name : String)
    (method : σ → Address → Address → Word → Bytes → Option (σ × ContractCallResult))
    {addrOffset valueOffset dataOffset dataLength : BitVec 32}
    (hx : x ∈ [addrOffset, valueOffset, dataOffset, dataLength]) (h : x.toInt < 0) :
    FailsAt s (callWithValue host name method addrOffset valueOffset dataOffset dataLength) := by
  simp only [List.mem_cons, List.mem_singleton, List.not_mem_nil, or_false] at hx
  rcases hx with rfl | rfl | rfl | rfl
  · exact failsAt_validate_bind h
  · exact (check_validateOffsetForType _ _ _).failsAt_bind fun _ => failsAt_validate_bind h
  · exact (check_validateOffsetForType _ _ _).failsAt_bind fun _ =>
      (check_validateOffsetForType _ _ _).failsAt_bind fun _ =>
        (failsAt_validateDataParam _ (.inl h)).bind
  · exact (check_validateOffsetForType _ _ _).failsAt_bind fun _ =>
      (check_validateOffsetForType _ _ _).failsAt_bind fun _ =>
        (failsAt_validateDataParam _ (.inr h)).bind

theorem failsAt_callWithoutValue (name : String)
    (method : σ → Address → Address → Bytes → Option (σ × ContractCallResult))
    {addrOffset dataOffset dataLength : BitVec 32}
    (hx : x ∈ [addrOffset, dataOffset, dataLength]) (h : x.toInt < 0) :
    FailsAt s (callWithoutValue host name method addrOffset dataOffset dataLength) := by
  simp only [List.mem_cons, List.mem_singleton, List.not_mem_nil, or_false] at hx
  rcases hx with rfl | rfl | rfl
  · exact failsAt_validate_bind h
  · exact (check_validateOffsetForType _ _ _).failsAt_bind fun _ =>
      (failsAt_validateDataParam _ (.inl h)).bind
  · exact (check_validateOffsetForType _ _ _).failsAt_bind fun _ =>
      (failsAt_validateDataParam _ (.inr h)).bind

theorem failsAt_createContract {valueOffset codeOffset codeLength dataOffset dataLength
    saltOffset isCreate2 resultOffset : BitVec 32}
    (hx : x ∈ [valueOffset, codeOffset, codeLength, dataOffset, dataLength, resultOffset] ++
      if isCreate2 ≠ 0 then [saltOffset] else [])
    (h : x.toInt < 0) :
    FailsAt s (createContract host valueOffset codeOffset codeLength dataOffset dataLength
      saltOffset isCreate2 resultOffset) := by
  have hv : ∀ o, Check (validateOffsetForType o 32 "bytes32" : HostFn σ Nat) :=
    fun o => check_validateOffsetForType o 32 "bytes32"
  have hd : ∀ o l name, Check (validateDataParam o l name : HostFn σ (Nat × Nat)) :=
    check_validateDataParam
  -- the checks before the salt and the result offset
  have hsalt : Check (if isCreate2 ≠ 0 then some <$> validateBytes32Param saltOffset
      else (pure none : HostFn σ (Option Nat))) :=
    .ite _ ((hv _).map _) (check_pure _)
  simp only [List.mem_append, List.mem_cons, List.mem_singleton, List.not_mem_nil, or_false]
    at hx
  rcases hx with (rfl | rfl | rfl | rfl | rfl | rfl) | hs
  · exact failsAt_validate_bind h
  · exact (hv _).failsAt_bind fun _ => (failsAt_validateDataParam _ (.inl h)).bind
  · exact (hv _).failsAt_bind fun _ => (failsAt_validateDataParam _ (.inr h)).bind
  · exact (hv _).failsAt_bind fun _ => (hd _ _ _).failsAt_bind fun _ =>
      (failsAt_validateDataParam _ (.inl h)).bind
  · exact (hv _).failsAt_bind fun _ => (hd _ _ _).failsAt_bind fun _ =>
      (failsAt_validateDataParam _ (.inr h)).bind
  · exact (hv _).failsAt_bind fun _ => (hd _ _ _).failsAt_bind fun _ =>
      (hd _ _ _).failsAt_bind fun _ => hsalt.failsAt_bind fun _ => failsAt_validate_bind h
  · -- CREATE2 validates the salt offset
    split at hs
    · rename_i hc
      cases List.mem_singleton.mp hs
      refine (hv _).failsAt_bind fun _ => (hd _ _ _).failsAt_bind fun _ =>
        (hd _ _ _).failsAt_bind fun _ => FailsAt.bind ?_
      rw [if_pos hc]
      exact (failsAt_validateOffsetForType _ _ h).map _
    · cases hs

theorem failsAt_terminate (name : String) (method : σ → Bytes → σ) (code : Int)
    {dataOffset length : BitVec 32} (hx : x ∈ [dataOffset, length]) (h : x.toInt < 0) :
    FailsAt s (terminate name method code dataOffset length) := by
  simp only [List.mem_cons, List.mem_singleton, List.not_mem_nil, or_false] at hx
  rcases hx with rfl | rfl
  · exact (failsAt_validateDataParam _ (.inl h)).bind
  · exact (failsAt_validateDataParam _ (.inr h)).bind

theorem failsAt_selfDestruct {addrOffset : BitVec 32} (h : addrOffset.toInt < 0) :
    FailsAt s (selfDestruct host addrOffset) :=
  failsAt_validate_bind h

theorem failsAt_emitLogEvent {dataOffset length numTopics t1 t2 t3 t4 : BitVec 32}
    (hx : x ∈ dataOffset :: length :: [t1, t2, t3, t4].take numTopics.toNat) (h : x.toInt < 0) :
    FailsAt s (emitLogEvent host dataOffset length numTopics t1 t2 t3 t4) := by
  unfold emitLogEvent
  split
  · exact failsAt_throw _
  refine (check_pure _).failsAt_bind fun _ => ?_
  rcases List.mem_cons.mp hx with rfl | hx
  · exact (failsAt_validateDataParam _ (.inl h)).bind
  rcases List.mem_cons.mp hx with rfl | hx
  · exact (failsAt_validateDataParam _ (.inr h)).bind
  -- a topic the loop reads
  exact (check_validateDataParam _ _ _).failsAt_bind fun _ =>
    (check_readBytes _ _).failsAt_bind fun _ =>
      (failsAt_listMapM check_readTopic hx
        (failsAt_readTopic (fun h0 => by simp [h0] at h) fun ⟨ho, _⟩ => by omega)).bind


end HostFunctions

open HostFunctions in
/-- Every primitive but the two storage ones fails with `Err`, before any effect, on a
negative offset or length it uses. -/
theorem run_failsAt_of_negative (host : EvmHost σ) (c : HostCall) {s : Instance σ}
    {x : BitVec 32} (hstore : c.name ≠ "storageStore") (hload : c.name ≠ "storageLoad")
    (hx : x ∈ c.memoryArgs) (h : x.toInt < 0) : FailsAt s (c.run host) := by
  cases c with
  | getAddress | getCaller | getTxOrigin | getBlockCoinbase | getCallValue | getChainId
  | getBlockPrevRandao | getBaseFee | getBlobBaseFee | getTxGasPrice =>
    cases List.mem_singleton.mp hx
    exact (failsAt_writeHostValue _ _ h).map _
  | getBlockHash => cases List.mem_singleton.mp hx; exact (failsAt_getBlockHash host _ h).map _
  | getExternalCodeSize =>
    cases List.mem_singleton.mp hx; exact (failsAt_getExternalCodeSize host h).map _
  | selfDestruct => cases List.mem_singleton.mp hx; exact (failsAt_selfDestruct host h).map _
  | getExternalBalance => exact (failsAt_getExternalBalance host hx h).map _
  | getExternalCodeHash => exact (failsAt_getExternalCodeHash host hx h).map _
  | storageStore => exact absurd rfl hstore
  | storageLoad => exact absurd rfl hload
  | callDataCopy | returnDataCopy => exact (failsAt_copyFrom _ _ _ hx h).map _
  | codeCopy => exact (failsAt_codeCopy host hx h).map _
  | externalCodeCopy => exact (failsAt_externalCodeCopy host hx h).map _
  | sha256 | keccak256 => exact (failsAt_hashPrimitive _ _ hx h).map _
  | addmod | mulmod | expmod => exact (failsAt_modPrimitive _ hx h).map _
  | callContract | callCode => exact (failsAt_callWithValue host _ _ hx h).map _
  | callDelegate | callStatic => exact (failsAt_callWithoutValue host _ _ hx h).map _
  | createContract => exact (failsAt_createContract host hx h).map _
  | finish | revert => exact (failsAt_terminate _ _ _ hx h).map _
  | emitLogEvent => exact (failsAt_emitLogEvent host hx h).map _
  | getBlockNumber | getBlockTimestamp | getBlockGasLimit | getCallDataSize | getCodeSize
  | invalid | getReturnDataSize | getGasLeft => exact absurd hx (List.not_mem_nil _)

/-- `storage_load` casts both offsets `as u32`: wherever the two reinterpreted ranges are
valid it succeeds, whatever the sign of the offsets. -/
theorem run_storageLoad_of_valid (host : EvmHost σ) {s : Instance σ}
    {keyOffset resultOffset : BitVec 32}
    (hk : s.memory.validateWasmAddr keyOffset.toNat 32 = true)
    (hr : s.memory.validateWasmAddr resultOffset.toNat 32 = true) :
    ∃ s', (HostCall.storageLoad keyOffset resultOffset).run host s = .ok none s' := by
  simp only [HostCall.run, map_apply, HostFunctions.storageLoad, readBytes32,
    bind_of_ok (readFixed_of_valid _ hk), hostState_bind, writeBytes32,
    writeBytes_fixed_apply _ _ _ (by decide) hr]
  exact ⟨_, rfl⟩

/-- `storage_store` casts both offsets `as u32` and reads two words. -/
theorem run_storageStore_of_valid (host : EvmHost σ) {s : Instance σ}
    {keyOffset valueOffset : BitVec 32}
    (hk : s.memory.validateWasmAddr keyOffset.toNat 32 = true)
    (hv : s.memory.validateWasmAddr valueOffset.toNat 32 = true) :
    ∃ s', (HostCall.storageStore keyOffset valueOffset).run host s = .ok none s' := by
  simp only [HostCall.run, map_apply, HostFunctions.storageStore, readBytes32,
    bind_of_ok (readFixed_of_valid _ hk), bind_of_ok (readFixed_of_valid _ hv), hostState_bind,
    setHostState_apply]
  exact ⟨_, rfl⟩

/-- A memory of `2 ^ 32` bytes accepts every word that ends inside it, at any `u32` offset. -/
theorem start_full_memory_valid {st : σ} {o : Nat} (ho : o + 32 ≤ 2 ^ 32) :
    (Instance.start (Memory.ofBytes (List.replicate (2 ^ 32) 0)) st 0).memory.validateWasmAddr
      o 32 = true := by
  simp only [Instance.start, Memory.ofBytes, List.length_replicate, decide_eq_true_eq]
  exact ho

/-- The sign check of the validators, and the two primitives without it. Every primitive
that uses guest-memory offsets or lengths returns `Err` with the instance unchanged when one
of them is negative, except `storage_load` and `storage_store`: on a memory of `2 ^ 32`
bytes they accept the offsets `-32` and `-64`, as `0xFFFFFFE0` and `0xFFFFFFC0`. -/
theorem storage_skips_sign_check :
    (∀ (σ : Type) (host : EvmHost σ) (c : HostCall) (inst : Instance σ) (x : BitVec 32),
      c.name ≠ "storageStore" → c.name ≠ "storageLoad" → x ∈ c.memoryArgs → x.toInt < 0 →
      ∃ e, c.run host inst = .error (.error e) inst) ∧
    (∀ (σ : Type) (host : EvmHost σ) (st : σ), ∃ inst',
      (HostCall.storageLoad (-32) (-64)).run host
        (.start (Memory.ofBytes (List.replicate (2 ^ 32) 0)) st 0) = .ok none inst') ∧
    (∀ (σ : Type) (host : EvmHost σ) (st : σ), ∃ inst',
      (HostCall.storageStore (-32) (-64)).run host
        (.start (Memory.ofBytes (List.replicate (2 ^ 32) 0)) st 0) = .ok none inst') :=
  ⟨fun _ host c _ _ hstore hload hx h => run_failsAt_of_negative host c hstore hload hx h,
    fun _ host _ => run_storageLoad_of_valid host (start_full_memory_valid (by decide))
      (start_full_memory_valid (by decide)),
    fun _ host _ => run_storageStore_of_valid host (start_full_memory_valid (by decide))
      (start_full_memory_valid (by decide))⟩

end DtvmEvm
