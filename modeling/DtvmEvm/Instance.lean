import DtvmEvm.Basic

/-!
# `DtvmEvm.Instance`: the engine instance a host primitive runs on

A host primitive receives `&ZenInstance<T>`. Through it the bridge reaches the guest's linear
memory (`get_host_memory`, bounded by the engine predicate `validate_wasm_addr`), the host
context `extra_ctx : T`, the gas counter (`get_gas_left`), and the two engine exits:
`exit(code)`, which the control primitives call, and `set_exception_by_hostapi(code)`, which
the `extern "C"` wrappers call on an error. `Instance σ` holds all of them; `σ` is the host's
state, which the `&self` methods of `EvmHost` mutate through `RefCell`s.

A primitive is a `HostFn σ α`: a state-passing computation that may stop with a
`HostFault`. A `HostFunctionError` is the `Err` of a `HostFunctionResult`, which `?`
propagates; effects made before it stay, as they do in place in Rust, which is why the
monad is `EStateM`. `panicked` is a Rust panic, which unwinds out of the `extern "C"`
wrapper and aborts the process.

`validate_wasm_addr` belongs to the engine, which is not part of this repository. The model
takes it as a field of `Memory` with one promise: an accepted range lies inside the memory
(`validate_sound`). With that promise `read_bytes32` never hits its `copy_from_slice` panic
(`readFixed_apply`).
-/

set_option autoImplicit false

namespace DtvmEvm

/-- `overwrite bs o d`: `bs` with the bytes from `o` on replaced by `d`, cut at the end of
`bs`. This is the `copy_nonoverlapping` of `write_bytes` on a validated range. -/
def overwrite : List UInt8 → Nat → List UInt8 → List UInt8
  | [], _, _ => []
  | b :: bs, 0, [] => b :: bs
  | _ :: bs, 0, d :: ds => d :: overwrite bs 0 ds
  | b :: bs, o + 1, ds => b :: overwrite bs o ds

@[simp] theorem length_overwrite (bs : List UInt8) (o : Nat) (d : List UInt8) :
    (overwrite bs o d).length = bs.length := by
  induction bs, o, d using overwrite.induct <;> simp_all [overwrite]

/-- On a range inside `bs`, `overwrite` is the splice `take ++ d ++ drop`. -/
theorem overwrite_eq_splice (bs : List UInt8) (o : Nat) (d : List UInt8)
    (h : o + d.length ≤ bs.length) :
    overwrite bs o d = bs.take o ++ d ++ bs.drop (o + d.length) := by
  induction bs, o, d using overwrite.induct with
  | case1 o d => simp_all [overwrite]
  | case2 b bs => simp [overwrite]
  | case3 _ bs d ds ih => simp_all [overwrite]
  | case4 b bs o ds ih =>
    simp only [List.length_cons] at h
    simp [overwrite, ih (by omega), Nat.add_right_comm o 1]

/-- On a range inside `bs`, the written range reads back the written bytes. -/
theorem take_drop_overwrite {bs d : List UInt8} {o : Nat} (h : o + d.length ≤ bs.length) :
    ((overwrite bs o d).drop o).take d.length = d := by
  rw [overwrite_eq_splice _ _ _ h, List.append_assoc,
    List.drop_left' (by rw [List.length_take]; omega), List.take_left' rfl]

/-- Outside the written range, `overwrite` keeps every byte. -/
theorem getElem?_overwrite_of_not_mem {bs d : List UInt8} {o i : Nat}
    (hi : i < o ∨ o + d.length ≤ i) : (overwrite bs o d)[i]? = bs[i]? := by
  induction bs, o, d using overwrite.induct generalizing i with
  | case1 => rfl
  | case2 => rfl
  | case3 _ bs d ds ih =>
    obtain _ | i := i
    · simp at hi
    · simp only [overwrite, List.getElem?_cons_succ]
      exact ih (by simp only [List.length_cons] at hi; omega)
  | case4 b bs o ds ih =>
    obtain _ | i := i
    · simp only [overwrite, List.getElem?_cons_zero]
    · simp only [overwrite, List.getElem?_cons_succ]
      exact ih (by omega)

/-- Guest linear memory as the bridge sees it: its bytes and the engine's bounds predicate
`validate_wasm_addr(offset, length)`, of which only soundness is assumed. -/
structure Memory where
  bytes : List UInt8
  validateWasmAddr : Nat → Nat → Bool
  validate_sound : ∀ o l, validateWasmAddr o l = true → o + l ≤ bytes.length

/-- A memory whose bounds predicate accepts exactly the ranges inside it, as the engine's
`validateWasmAddr` does for a linear memory of that many bytes. -/
def Memory.ofBytes (bytes : List UInt8) : Memory where
  bytes := bytes
  validateWasmAddr o l := decide (o + l ≤ bytes.length)
  validate_sound _ _ h := of_decide_eq_true h

/-- Memory after `copy_nonoverlapping` of `d` to offset `o`; the bounds predicate stays. -/
def Memory.overwrite (m : Memory) (o : Nat) (d : Bytes) : Memory where
  bytes := DtvmEvm.overwrite m.bytes o d
  validateWasmAddr := m.validateWasmAddr
  validate_sound := by simpa using m.validate_sound

@[simp] theorem Memory.overwrite_validateWasmAddr (m : Memory) (o : Nat) (d : Bytes) :
    (m.overwrite o d).validateWasmAddr = m.validateWasmAddr := rfl

/-- The engine instance a primitive runs on (`ZenInstance<T>`). `exitCode` is set by
`exit(code)`, `exception` by `set_exception_by_hostapi(code)`. -/
structure Instance (σ : Type) where
  memory : Memory
  extraCtx : σ
  gasLeft : Nat
  exitCode : Option Int
  exception : Option Nat

/-- The instance `new_instance_with_context` creates: the module's memory, the host context,
the gas budget, and neither exit nor exception. -/
def Instance.start {σ : Type} (memory : Memory) (extraCtx : σ) (gasLeft : Nat) : Instance σ :=
  { memory, extraCtx, gasLeft, exitCode := none, exception := none }

/-- Why a primitive stopped early: an `Err` of `HostFunctionResult`, or a Rust panic. -/
inductive HostFault where
  | error (e : HostFunctionError)
  | panicked
deriving DecidableEq

/-- A host primitive: it mutates the instance in place and may stop with a fault. -/
abbrev HostFn (σ α : Type) := EStateM HostFault (Instance σ) α

namespace MemoryAccessor

variable {σ : Type}

/-- `validate_range(offset, length)`: the engine's predicate. -/
def validateRange (offset length : Nat) : HostFn σ Bool :=
  return (← get).memory.validateWasmAddr offset length

/-- `read_bytes(offset, length)`. -/
def readBytes (offset length : Nat) : HostFn σ Bytes := do
  if !(← validateRange offset length) then
    throw (.error (outOfBoundsError offset length "read_bytes"))
  return ((← get).memory.bytes.drop offset).take length

/-- `read_bytes32` and `read_address`: `read_bytes` and then `copy_from_slice` into an
`n`-byte array, which panics when the lengths differ. -/
def readFixed (offset n : Nat) : HostFn σ (FixedBytes n) := do
  let bytes ← readBytes offset n
  if h : bytes.length = n then return ⟨bytes, h⟩ else throw .panicked

/-- `read_bytes32(offset)`. -/
def readBytes32 (offset : Nat) : HostFn σ Word := readFixed offset 32

/-- `read_address(offset)`. -/
def readAddress (offset : Nat) : HostFn σ Address := readFixed offset 20

/-- `read_bytes_vec(offset, length)`. -/
def readBytesVec (offset length : Nat) : HostFn σ Bytes := readBytes offset length

/-- `write_bytes(offset, data)`: the length is `data.len() as u32`. -/
def writeBytes (offset : Nat) (data : Bytes) : HostFn σ Unit := do
  let length := data.length % 2 ^ 32
  if !(← validateRange offset length) then
    throw (.error (outOfBoundsError offset length "write_bytes"))
  modify fun i => { i with memory := i.memory.overwrite offset data }

/-- `write_bytes32(offset, data)`. -/
def writeBytes32 (offset : Nat) (data : Word) : HostFn σ Unit := writeBytes offset data.bytes

/-- `write_address(offset, data)`. -/
def writeAddress (offset : Nat) (data : Address) : HostFn σ Unit := writeBytes offset data.bytes

end MemoryAccessor

section Validate

variable {σ : Type}

open MemoryAccessor

/-- `validate_offset_for_type(instance, offset, type_size, type_name)`. -/
def validateOffsetForType (offset : BitVec 32) (typeSize : Nat) (typeName : String) :
    HostFn σ Nat := do
  if offset.toInt < 0 then
    throw (.error (outOfBoundsError offset.toNat typeSize ("negative offset for " ++ typeName)))
  if !(← validateRange offset.toNat typeSize) then
    throw (.error (outOfBoundsError offset.toNat typeSize
      ("invalid memory access for " ++ typeName)))
  return offset.toNat

/-- `validate_address_param(instance, offset)`. -/
def validateAddressParam (offset : BitVec 32) : HostFn σ Nat :=
  validateOffsetForType offset 20 "address"

/-- `validate_bytes32_param(instance, offset)`. -/
def validateBytes32Param (offset : BitVec 32) : HostFn σ Nat :=
  validateOffsetForType offset 32 "bytes32"

/-- `validate_data_param(instance, offset, length, name)`. The primitives pass the name of the
primitive as a fourth argument, which the version of `utils.rs` in this repository does not
take; the checks are those of `utils.rs`, and the name is not used. -/
def validateDataParam (offset length : BitVec 32) (_name : Option String) :
    HostFn σ (Nat × Nat) := do
  if offset.toInt < 0 then
    throw (.error (outOfBoundsError offset.toNat length.toNat "negative data offset"))
  if length.toInt < 0 then
    throw (.error (outOfBoundsError offset.toNat length.toNat "negative data length"))
  if !(← validateRange offset.toNat length.toNat) then
    throw (.error (outOfBoundsError offset.toNat length.toNat "invalid memory access for data"))
  return (offset.toNat, length.toNat)

end Validate

end DtvmEvm
