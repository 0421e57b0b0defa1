import DtvmEvm.Instance

/-!
# `DtvmEvm.Utils`: the memory helpers of `utils.rs` that no primitive calls

Beside the reads and writes of `MemoryAccessor`, `utils.rs` exports a copy inside guest
memory (`MemoryAccessor::copy_memory`), two helpers that run a caller's closure on a
validated slice of guest memory (`safe_memory_access` for reading, `safe_memory_write` for
writing), and a check of several ranges at once (`validate_memory_ranges`). No host function
of this repository calls them; they are the crate's public API for host implementations.

`copy_memory` takes the source as the slice `read_bytes` returns, which points into guest
memory, and `write_bytes` copies it with `copy_nonoverlapping`. That copy is defined only
when the two ranges are disjoint. The model reads the whole source before writing, which is
what Rust does on disjoint ranges; its theorems assume the ranges disjoint.

`safe_memory_write` hands its closure `&mut [u8]` of exactly `length` bytes, so the closure
can change the bytes of the range and nothing else, neither the slice's length nor memory
outside it. The model's closure maps the slice's old bytes to its new bytes, and carries the
length as part of its type.
-/

set_option autoImplicit false

namespace DtvmEvm

namespace MemoryAccessor

variable {σ : Type}

/-- `MemoryAccessor::copy_memory(src_offset, dst_offset, length)`. -/
def copyMemory (srcOffset dstOffset length : Nat) : HostFn σ Unit := do
  let srcData ← readBytes srcOffset length
  writeBytes dstOffset srcData

end MemoryAccessor

open MemoryAccessor

variable {σ : Type}

/-- `safe_memory_access(instance, offset, length, operation)`. -/
def safeMemoryAccess {β : Type} (offset length : Nat) (operation : Bytes → β) : HostFn σ β := do
  let memorySlice ← readBytes offset length
  return operation memorySlice

/-- A closure `FnOnce(&mut [u8])`: the new contents of the slice from its old contents, of the
same length. -/
abbrev SliceUpdate := (slice : Bytes) → { updated : Bytes // updated.length = slice.length }

/-- `safe_memory_write(instance, offset, length, operation)`. -/
def safeMemoryWrite (offset length : Nat) (operation : SliceUpdate) : HostFn σ Unit := do
  if !(← validateRange offset length) then
    throw (.error (outOfBoundsError offset length "safe_memory_write"))
  modify fun i => { i with
    memory := i.memory.overwrite offset (operation ((i.memory.bytes.drop offset).take length)) }

/-- The loop of `validate_memory_ranges` from index `i` of the enumeration on. -/
def validateMemoryRangesFrom : Nat → List (Nat × Nat) → HostFn σ Unit
  | _, [] => pure ()
  | i, (offset, length) :: ranges => do
    if !(← validateRange offset length) then
      throw (.error (outOfBoundsError offset length
        ("memory range validation failed at index " ++ toString i)))
    validateMemoryRangesFrom (i + 1) ranges

/-- `validate_memory_ranges(instance, ranges)`: the ranges in order, each with its index. -/
def validateMemoryRanges (ranges : List (Nat × Nat)) : HostFn σ Unit :=
  validateMemoryRangesFrom 0 ranges

end DtvmEvm
