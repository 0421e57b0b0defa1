import DtvmEvm.HostFunctions.Environment

/-!
# `DtvmEvm.Proofs.Effects`: what a primitive does to its instance

A primitive runs in place on its instance, and an `Err` that `?` propagates keeps every
effect made before it. This module gives the run equations of the accessors every primitive
is built from, and four predicates on how a `HostFn` computation touches the instance:

* `ReadOnly x`: `x` never changes the instance, whether it succeeds or fails;
* `FailsCleanly x`: whenever `x` fails, the instance is as it was before;
* `NeverFails x`: `x` does not fail;
* `KeepsHost x`: when `x` succeeds, the host state is as it was before.

`DtvmEvm.Proofs.Atomicity` combines them into what a whole primitive does.

The run equations `readBytes_apply`, `readFixed_apply`, `writeBytes_apply`,
`validateOffsetForType_apply` and `validateDataParam_apply` are the spec lemmas of the
accessors; later modules use them, never the definitions.
-/

set_option autoImplicit false

namespace DtvmEvm

variable {σ α β : Type}

namespace HostFn

/-! ### Running a `HostFn` on an instance -/

@[simp] theorem pure_apply (a : α) (s : Instance σ) : (pure a : HostFn σ α) s = .ok a s := rfl

@[simp] theorem get_apply (s : Instance σ) : (get : HostFn σ (Instance σ)) s = .ok s s := rfl

@[simp] theorem throw_apply (e : HostFault) (s : Instance σ) :
    (throw e : HostFn σ α) s = .error e s := rfl

@[simp] theorem modify_apply (f : Instance σ → Instance σ) (s : Instance σ) :
    (modify f : HostFn σ Unit) s = .ok () (f s) := rfl

theorem bind_apply (x : HostFn σ α) (f : α → HostFn σ β) (s : Instance σ) :
    (x >>= f) s = match x s with
      | .ok a s' => f a s'
      | .error e s' => .error e s' := by
  show EStateM.bind x f s = _
  simp only [EStateM.bind]
  cases x s <;> rfl

/-- A bind that succeeds: both halves succeeded, the second from where the first ended. -/
theorem bind_eq_ok {x : HostFn σ α} {f : α → HostFn σ β} {s s'' : Instance σ} {b : β}
    (h : (x >>= f) s = .ok b s'') : ∃ a s', x s = .ok a s' ∧ f a s' = .ok b s'' := by
  rw [bind_apply] at h
  cases hx : x s with
  | ok a s' => rw [hx] at h; exact ⟨a, s', rfl, h⟩
  | error e s' => rw [hx] at h; cases h

/-- A first step whose result is known hands it to the continuation. -/
theorem bind_of_ok {x : HostFn σ α} {f : α → HostFn σ β} {s s' : Instance σ} {a : α}
    (hx : x s = .ok a s') : (x >>= f) s = f a s' := by
  rw [bind_apply, hx]

theorem map_apply (g : α → β) (x : HostFn σ α) (s : Instance σ) :
    (g <$> x) s = match x s with
      | .ok a s' => .ok (g a) s'
      | .error e s' => .error e s' := by
  show EStateM.map g x s = _
  simp only [EStateM.map]
  cases x s <;> rfl

theorem map_eq_ok {g : α → β} {x : HostFn σ α} {s s' : Instance σ} {b : β}
    (h : (g <$> x) s = .ok b s') : ∃ a, x s = .ok a s' ∧ b = g a := by
  rw [map_apply] at h
  split at h
  · cases h; exact ⟨_, ‹_›, rfl⟩
  · cases h

/-! ### Effect predicates -/

/-- `x` never changes the instance. -/
def ReadOnly (x : HostFn σ α) : Prop :=
  ∀ s, (∃ a, x s = .ok a s) ∨ ∃ e, x s = .error e s

/-- Whenever `x` fails, the instance is as it was before. -/
def FailsCleanly (x : HostFn σ α) : Prop :=
  ∀ s e s', x s = .error e s' → s' = s

/-- `x` does not fail. -/
def NeverFails (x : HostFn σ α) : Prop :=
  ∀ s e s', x s ≠ .error e s'

/-- When `x` succeeds, the host state is as it was before. -/
def KeepsHost (x : HostFn σ α) : Prop :=
  ∀ s a s', x s = .ok a s' → s'.extraCtx = s.extraCtx

variable {x : HostFn σ α} {y : HostFn σ α} {f : α → HostFn σ β}

theorem ReadOnly.failsCleanly (hx : ReadOnly x) : FailsCleanly x := by
  intro s e s' h
  rcases hx s with ⟨a, ha⟩ | ⟨e', he⟩
  · rw [ha] at h; cases h
  · rw [he] at h; cases h; rfl

/-- A read-only computation that succeeds left the instance as it was. -/
theorem ReadOnly.eq_of_ok (hx : ReadOnly x) {s s' : Instance σ} {a : α} (h : x s = .ok a s') :
    s' = s := by
  rcases hx s with ⟨a', ha⟩ | ⟨e, he⟩
  · rw [ha] at h; cases h; rfl
  · rw [he] at h; cases h

theorem ReadOnly.keepsHost (hx : ReadOnly x) : KeepsHost x := by
  intro s a s' h
  rcases hx s with ⟨a', ha⟩ | ⟨e, he⟩
  · rw [ha] at h; cases h; rfl
  · rw [he] at h; cases h

theorem ReadOnly.bind (hx : ReadOnly x) (hf : ∀ a, ReadOnly (f a)) : ReadOnly (x >>= f) := by
  intro s
  rw [bind_apply]
  rcases hx s with ⟨a, ha⟩ | ⟨e, he⟩
  · rw [ha]; exact hf a s
  · rw [he]; exact .inr ⟨e, rfl⟩

theorem ReadOnly.map (g : α → β) (hx : ReadOnly x) : ReadOnly (g <$> x) := by
  intro s
  rw [map_apply]
  rcases hx s with ⟨a, ha⟩ | ⟨e, he⟩
  · rw [ha]; exact .inl ⟨g a, rfl⟩
  · rw [he]; exact .inr ⟨e, rfl⟩

theorem ReadOnly.ite (c : Prop) [Decidable c] (hx : ReadOnly x) (hy : ReadOnly y) :
    ReadOnly (if c then x else y) := by
  split <;> assumption

theorem readOnly_pure (a : α) : ReadOnly (pure a : HostFn σ α) := fun _ => .inl ⟨a, rfl⟩

theorem readOnly_get : ReadOnly (get : HostFn σ (Instance σ)) := fun s => .inl ⟨s, rfl⟩

theorem readOnly_throw (e : HostFault) : ReadOnly (throw e : HostFn σ α) :=
  fun _ => .inr ⟨e, rfl⟩

theorem neverFails_pure (a : α) : NeverFails (pure a : HostFn σ α) := by
  intro s e s' h; cases h

theorem neverFails_modify (g : Instance σ → Instance σ) : NeverFails (modify g) := by
  intro s e s' h; cases h

/-- `Option.mapM` of a read-only step, the salt read of `create_contract`. -/
theorem ReadOnly.optionMapM {g : α → HostFn σ β} (hg : ∀ a, ReadOnly (g a)) (o : Option α) :
    ReadOnly (o.mapM g) := by
  cases o with
  | none => exact readOnly_pure none
  | some a => exact (hg a).bind fun b => readOnly_pure (some b)

/-- `List.mapM` of a read-only step, the topic loop of `emit_log_event`. -/
theorem ReadOnly.listMapM {g : α → HostFn σ β} (hg : ∀ a, ReadOnly (g a)) (l : List α) :
    ReadOnly (l.mapM g) := by
  induction l with
  | nil => exact readOnly_pure []
  | cons a l ih =>
    simp only [List.mapM_cons]
    exact (hg a).bind fun b => ih.bind fun bs => readOnly_pure (b :: bs)

end HostFn

open HostFn

/-! ### The host state -/

@[simp] theorem hostState_apply (s : Instance σ) : (hostState : HostFn σ σ) s = .ok s.extraCtx s :=
  rfl

@[simp] theorem hostState_bind (f : σ → HostFn σ β) (s : Instance σ) :
    (hostState >>= f) s = f s.extraCtx s := rfl

@[simp] theorem setHostState_apply (st : σ) (s : Instance σ) :
    setHostState st s = .ok () { s with extraCtx := st } := rfl

theorem readOnly_hostState : ReadOnly (hostState : HostFn σ σ) := fun _ => .inl ⟨_, rfl⟩

/-! ### The memory accessor -/

namespace MemoryAccessor

variable (s : Instance σ)

@[simp] theorem validateRange_apply (o l : Nat) :
    (validateRange o l : HostFn σ Bool) s = .ok (s.memory.validateWasmAddr o l) s := rfl

theorem readBytes_apply (o l : Nat) :
    (readBytes o l : HostFn σ Bytes) s =
      if s.memory.validateWasmAddr o l then .ok ((s.memory.bytes.drop o).take l) s
      else .error (.error (outOfBoundsError o l "read_bytes")) s := by
  cases h : s.memory.validateWasmAddr o l <;>
    simp [readBytes, bind_apply, map_apply, h]

/-- What a validated read returns has the requested length: the promise `validate_sound`. -/
theorem length_read_of_valid {o l : Nat} (h : s.memory.validateWasmAddr o l = true) :
    ((s.memory.bytes.drop o).take l).length = l := by
  have := s.memory.validate_sound o l h
  simp; omega

/-- An `n`-byte value written on a validated range reads back from it. -/
theorem read_overwrite_fixed {o n : Nat} (d : FixedBytes n)
    (h : s.memory.validateWasmAddr o n = true) :
    ((s.memory.overwrite o d.bytes).bytes.drop o).take n = d.bytes := by
  have hfit := s.memory.validate_sound o n h
  have hback := take_drop_overwrite (d := d.bytes) (d.length_eq ▸ hfit)
  rwa [d.length_eq] at hback

/-- `read_bytes32` and `read_address` never panic: a validated read has the array's length. -/
theorem readFixed_apply (o n : Nat) :
    (readFixed o n : HostFn σ (FixedBytes n)) s =
      if h : s.memory.validateWasmAddr o n = true then
        .ok ⟨(s.memory.bytes.drop o).take n, length_read_of_valid s h⟩ s
      else .error (.error (outOfBoundsError o n "read_bytes")) s := by
  by_cases h : s.memory.validateWasmAddr o n = true
  · simp only [readFixed, bind_apply, readBytes_apply, h, if_true, length_read_of_valid s h,
      dite_true, pure_apply]
  · simp only [readFixed, bind_apply, readBytes_apply, h, Bool.false_eq_true, if_false,
      dite_false]

theorem writeBytes_apply (o : Nat) (d : Bytes) :
    (writeBytes o d : HostFn σ Unit) s =
      if s.memory.validateWasmAddr o (d.length % 2 ^ 32) then
        .ok () { s with memory := s.memory.overwrite o d }
      else .error (.error (outOfBoundsError o (d.length % 2 ^ 32) "write_bytes")) s := by
  cases h : s.memory.validateWasmAddr o (d.length % 2 ^ 32) <;>
    simp only [writeBytes, bind_apply, validateRange_apply, h, Bool.not_true, Bool.not_false,
      Bool.false_eq_true, if_true, if_false, pure_apply, throw_apply, modify_apply]

/-- A write of `l < 2 ^ 32` bytes succeeds wherever the range is valid. -/
theorem writeBytes_of_valid {o l : Nat} {d : Bytes} (hd : d.length = l) (hl : l < 2 ^ 32)
    (h : s.memory.validateWasmAddr o l = true) :
    (writeBytes o d : HostFn σ Unit) s = .ok () { s with memory := s.memory.overwrite o d } := by
  rw [writeBytes_apply, hd, Nat.mod_eq_of_lt hl, if_pos h]

/-- A write of an `n`-byte array succeeds wherever the range is valid. -/
theorem writeBytes_fixed_apply {n : Nat} (o : Nat) (d : FixedBytes n) (hn : n < 2 ^ 32)
    (h : s.memory.validateWasmAddr o n = true) :
    (writeBytes o d.bytes : HostFn σ Unit) s =
      .ok () { s with memory := s.memory.overwrite o d.bytes } :=
  writeBytes_of_valid s d.length_eq hn h

theorem readBytes_of_valid {o l : Nat} (h : s.memory.validateWasmAddr o l = true) :
    (readBytes o l : HostFn σ Bytes) s = .ok ((s.memory.bytes.drop o).take l) s := by
  rw [readBytes_apply, if_pos h]

theorem readFixed_of_valid {o n : Nat} (h : s.memory.validateWasmAddr o n = true) :
    (readFixed o n : HostFn σ (FixedBytes n)) s =
      .ok ⟨(s.memory.bytes.drop o).take n, length_read_of_valid s h⟩ s := by
  rw [readFixed_apply, dif_pos h]

variable {s}

theorem readOnly_readBytes (o l : Nat) : ReadOnly (readBytes o l : HostFn σ Bytes) := by
  intro s; rw [readBytes_apply]; split
  · exact .inl ⟨_, rfl⟩
  · exact .inr ⟨_, rfl⟩

theorem readOnly_readFixed (o n : Nat) : ReadOnly (readFixed o n : HostFn σ (FixedBytes n)) := by
  intro s; rw [readFixed_apply]; split
  · exact .inl ⟨_, rfl⟩
  · exact .inr ⟨_, rfl⟩

theorem readOnly_readBytes32 (o : Nat) : ReadOnly (readBytes32 o : HostFn σ Word) :=
  readOnly_readFixed o 32

theorem readOnly_readAddress (o : Nat) : ReadOnly (readAddress o : HostFn σ Address) :=
  readOnly_readFixed o 20

theorem readOnly_readBytesVec (o l : Nat) : ReadOnly (readBytesVec o l : HostFn σ Bytes) :=
  readOnly_readBytes o l

theorem failsCleanly_writeBytes (o : Nat) (d : Bytes) :
    FailsCleanly (writeBytes o d : HostFn σ Unit) := by
  intro s e s' h; rw [writeBytes_apply] at h; split at h
  · cases h
  · cases h; rfl

theorem keepsHost_writeBytes (o : Nat) (d : Bytes) : KeepsHost (writeBytes o d : HostFn σ Unit) := by
  intro s a s' h; rw [writeBytes_apply] at h; split at h
  · cases h; rfl
  · cases h

end MemoryAccessor

open MemoryAccessor

/-! ### The validators -/

section Validate

variable (s : Instance σ)

theorem validateOffsetForType_apply (offset : BitVec 32) (n : Nat) (name : String) :
    (validateOffsetForType offset n name : HostFn σ Nat) s =
      if offset.toInt < 0 then
        .error (.error (outOfBoundsError offset.toNat n ("negative offset for " ++ name))) s
      else if s.memory.validateWasmAddr offset.toNat n then .ok offset.toNat s
      else .error (.error (outOfBoundsError offset.toNat n
        ("invalid memory access for " ++ name))) s := by
  by_cases hneg : offset.toInt < 0
  · simp [validateOffsetForType, bind_apply, hneg]
  · cases h : s.memory.validateWasmAddr offset.toNat n <;>
      simp [validateOffsetForType, bind_apply, map_apply, hneg, h]

theorem validateDataParam_apply (offset length : BitVec 32) (name : Option String) :
    (validateDataParam offset length name : HostFn σ (Nat × Nat)) s =
      if offset.toInt < 0 then
        .error (.error (outOfBoundsError offset.toNat length.toNat "negative data offset")) s
      else if length.toInt < 0 then
        .error (.error (outOfBoundsError offset.toNat length.toNat "negative data length")) s
      else if s.memory.validateWasmAddr offset.toNat length.toNat then
        .ok (offset.toNat, length.toNat) s
      else .error (.error (outOfBoundsError offset.toNat length.toNat
        "invalid memory access for data")) s := by
  by_cases ho : offset.toInt < 0
  · simp [validateDataParam, bind_apply, ho]
  by_cases hl : length.toInt < 0
  · simp [validateDataParam, bind_apply, ho, hl]
  cases h : s.memory.validateWasmAddr offset.toNat length.toNat <;>
    simp [validateDataParam, bind_apply, map_apply, ho, hl, h]

/-- What a successful `validate_offset_for_type` establishes: the offset is not negative and
the engine accepts its range, and the result is the offset as `u32`. -/
theorem validateOffsetForType_ok {offset : BitVec 32} {n : Nat} {name : String} {r : Nat}
    {s' : Instance σ} (h : (validateOffsetForType offset n name : HostFn σ Nat) s = .ok r s') :
    s' = s ∧ r = offset.toNat ∧ 0 ≤ offset.toInt ∧ s.memory.validateWasmAddr r n = true := by
  rw [validateOffsetForType_apply] at h
  split at h
  · cases h
  · split at h
    · cases h; exact ⟨rfl, rfl, by omega, by assumption⟩
    · cases h

/-- What a successful `validate_data_param` establishes. -/
theorem validateDataParam_ok {offset length : BitVec 32} {name : Option String} {r : Nat × Nat}
    {s' : Instance σ} (h : (validateDataParam offset length name : HostFn σ (Nat × Nat)) s = .ok r s') :
    s' = s ∧ r = (offset.toNat, length.toNat) ∧ 0 ≤ offset.toInt ∧ 0 ≤ length.toInt ∧
      s.memory.validateWasmAddr offset.toNat length.toNat = true := by
  rw [validateDataParam_apply] at h
  split at h
  · cases h
  · split at h
    · cases h
    · split at h
      · cases h; exact ⟨rfl, rfl, by omega, by omega, by assumption⟩
      · cases h

variable {s}

/-- A validated offset is handed on as `u32`, at the same instance. -/
theorem validateOffsetForType_bind_ok {offset : BitVec 32} {n : Nat} {name : String}
    {f : Nat → HostFn σ β} {b : β} {s' : Instance σ}
    (h : (validateOffsetForType offset n name >>= f) s = .ok b s') :
    0 ≤ offset.toInt ∧ s.memory.validateWasmAddr offset.toNat n = true ∧
      f offset.toNat s = .ok b s' := by
  obtain ⟨_, _, hv, h⟩ := bind_eq_ok h
  obtain ⟨rfl, rfl, ho, hv⟩ := validateOffsetForType_ok _ hv
  exact ⟨ho, hv, h⟩

/-- A validated data range is handed on as `u32`s, at the same instance. -/
theorem validateDataParam_bind_ok {offset length : BitVec 32} {name : Option String}
    {f : Nat × Nat → HostFn σ β} {b : β} {s' : Instance σ}
    (h : (validateDataParam offset length name >>= f) s = .ok b s') :
    0 ≤ offset.toInt ∧ 0 ≤ length.toInt ∧
      s.memory.validateWasmAddr offset.toNat length.toNat = true ∧
      f (offset.toNat, length.toNat) s = .ok b s' := by
  obtain ⟨_, _, hv, h⟩ := bind_eq_ok h
  obtain ⟨rfl, rfl, ho, hl, hv⟩ := validateDataParam_ok _ hv
  exact ⟨ho, hl, hv, h⟩

/-- A non-negative offset whose range the engine accepts passes `validate_offset_for_type`. -/
theorem validateOffsetForType_of_valid {offset : BitVec 32} {n : Nat} (name : String)
    (ho : 0 ≤ offset.toInt) (hv : s.memory.validateWasmAddr offset.toNat n = true) :
    (validateOffsetForType offset n name : HostFn σ Nat) s = .ok offset.toNat s := by
  rw [validateOffsetForType_apply, if_neg (by omega), if_pos hv]

/-- A non-negative data range that the engine accepts passes `validate_data_param`. -/
theorem validateDataParam_of_valid {offset length : BitVec 32} (name : Option String)
    (ho : 0 ≤ offset.toInt) (hl : 0 ≤ length.toInt)
    (hv : s.memory.validateWasmAddr offset.toNat length.toNat = true) :
    (validateDataParam offset length name : HostFn σ (Nat × Nat)) s =
      .ok (offset.toNat, length.toNat) s := by
  rw [validateDataParam_apply, if_neg (by omega), if_neg (by omega), if_pos hv]

theorem readOnly_validateOffsetForType (offset : BitVec 32) (n : Nat) (name : String) :
    ReadOnly (validateOffsetForType offset n name : HostFn σ Nat) := by
  intro s; rw [validateOffsetForType_apply]
  split
  · exact .inr ⟨_, rfl⟩
  · split
    · exact .inl ⟨_, rfl⟩
    · exact .inr ⟨_, rfl⟩

theorem readOnly_validateAddressParam (offset : BitVec 32) :
    ReadOnly (validateAddressParam offset : HostFn σ Nat) :=
  readOnly_validateOffsetForType offset 20 "address"

theorem readOnly_validateBytes32Param (offset : BitVec 32) :
    ReadOnly (validateBytes32Param offset : HostFn σ Nat) :=
  readOnly_validateOffsetForType offset 32 "bytes32"

theorem readOnly_validateDataParam (offset length : BitVec 32) (name : Option String) :
    ReadOnly (validateDataParam offset length name : HostFn σ (Nat × Nat)) := by
  intro s; rw [validateDataParam_apply]
  split
  · exact .inr ⟨_, rfl⟩
  · split
    · exact .inr ⟨_, rfl⟩
    · split
      · exact .inl ⟨_, rfl⟩
      · exact .inr ⟨_, rfl⟩

end Validate

end DtvmEvm
