import DtvmEvm.Utils
import DtvmEvm.Proofs.Effects

/-!
# `DtvmEvm.Proofs.Utils`: the memory helpers of `utils.rs`

`validate_memory_ranges` is documented as "Returns the first invalid range if any, or Ok(())
if all are valid". It does: the loop over the enumerated ranges stops at the first range the
engine rejects (`List.find?`), and its error carries that range's offset and length and,
in its message, that range's index (`List.findIdx`). It only reads, so a failure changes
nothing.

`copy_memory` checks the source range, then the destination range; on disjoint ranges, which
`copy_nonoverlapping` requires, it writes at the destination the bytes the source held
before the call. `safe_memory_write` checks its range and writes there the closure's result
on the range's old bytes. Each changes only its destination range.

The main results:

* `validateMemoryRanges_eq`: the verdict of `validate_memory_ranges` on every list of ranges;
* `copyMemory_apply` and `safeMemoryWrite_apply`: what the two writers do, on every instance;
* `memory_writers_change_only_destination`: each changes its destination range and nothing
  else.
-/

set_option autoImplicit false

namespace DtvmEvm

open HostFn MemoryAccessor

variable {σ : Type} (s : Instance σ)

/-! ### `validate_memory_ranges` -/

/-- The loop from index `i`: it stops at the first rejected range, and names it with its
index counted from `i`. -/
theorem validateMemoryRangesFrom_apply (i : Nat) (ranges : List (Nat × Nat)) :
    (validateMemoryRangesFrom i ranges : HostFn σ Unit) s =
      match ranges.find? (fun r => !s.memory.validateWasmAddr r.1 r.2) with
      | none => .ok () s
      | some (offset, length) => .error (.error (outOfBoundsError offset length
          ("memory range validation failed at index " ++
            toString (i + ranges.findIdx fun r => !s.memory.validateWasmAddr r.1 r.2)))) s := by
  induction ranges generalizing i with
  | nil => rfl
  | cons r ranges ih =>
    obtain ⟨offset, length⟩ := r
    cases hv : s.memory.validateWasmAddr offset length
    · simp [validateMemoryRangesFrom, bind_apply, hv, List.findIdx_cons]
    · have hidx : ∀ n, i + 1 + n = i + (n + 1) := fun n => by omega
      simp only [validateMemoryRangesFrom, bind_apply, validateRange_apply, hv, Bool.not_true,
        Bool.false_eq_true, if_false, pure_apply, ih, hidx, List.find?_cons, List.findIdx_cons,
        cond_false]

/-- `validate_memory_ranges` accepts exactly when the engine accepts every range. Otherwise it
fails at the first range the engine rejects, with that range's offset and length and its
index in the message, and changes nothing. -/
theorem validateMemoryRanges_eq (ranges : List (Nat × Nat)) :
    (validateMemoryRanges ranges : HostFn σ Unit) s =
      match ranges.find? (fun r => !s.memory.validateWasmAddr r.1 r.2) with
      | none => .ok () s
      | some (offset, length) => .error (.error (outOfBoundsError offset length
          ("memory range validation failed at index " ++
            toString (ranges.findIdx fun r => !s.memory.validateWasmAddr r.1 r.2)))) s := by
  rw [validateMemoryRanges, validateMemoryRangesFrom_apply, Nat.zero_add]

/-- The verdict is `Ok` exactly when every range is valid. -/
example : (validateMemoryRanges [(0, 4), (2, 2)] : HostFn Unit Unit)
    (.start (.ofBytes [1, 2, 3, 4]) () 0) = .ok () (.start (.ofBytes [1, 2, 3, 4]) () 0) := rfl

/-! ### The two writers -/

/-- `copy_memory` of fewer than `2 ^ 32` bytes: the source is checked first, then the
destination, and the destination receives the source's bytes as they were. -/
theorem copyMemory_apply (src dst length : Nat) (hl : length < 2 ^ 32) :
    (copyMemory src dst length : HostFn σ Unit) s =
      if s.memory.validateWasmAddr src length then
        if s.memory.validateWasmAddr dst length then
          .ok () { s with memory := s.memory.overwrite dst ((s.memory.bytes.drop src).take length) }
        else .error (.error (outOfBoundsError dst length "write_bytes")) s
      else .error (.error (outOfBoundsError src length "read_bytes")) s := by
  by_cases hs : s.memory.validateWasmAddr src length
  · rw [copyMemory, bind_of_ok (readBytes_of_valid s hs), writeBytes_apply,
      length_read_of_valid s hs, Nat.mod_eq_of_lt hl, if_pos hs]
  · rw [copyMemory, bind_apply, readBytes_apply, if_neg hs, if_neg hs]

/-- `safe_memory_write`: on a valid range, the range holds the closure's result on its old
bytes. -/
theorem safeMemoryWrite_apply (offset length : Nat) (operation : SliceUpdate) :
    (safeMemoryWrite offset length operation : HostFn σ Unit) s =
      if s.memory.validateWasmAddr offset length then
        .ok () { s with
          memory := s.memory.overwrite offset (operation ((s.memory.bytes.drop offset).take length)) }
      else .error (.error (outOfBoundsError offset length "safe_memory_write")) s := by
  cases h : s.memory.validateWasmAddr offset length <;>
    simp [safeMemoryWrite, bind_apply, h]

/-- `safe_memory_access` runs its closure on the validated slice and changes nothing. -/
theorem safeMemoryAccess_apply {β : Type} (offset length : Nat) (operation : Bytes → β) :
    (safeMemoryAccess offset length operation : HostFn σ β) s =
      if s.memory.validateWasmAddr offset length then
        .ok (operation ((s.memory.bytes.drop offset).take length)) s
      else .error (.error (outOfBoundsError offset length "read_bytes")) s := by
  cases h : s.memory.validateWasmAddr offset length <;>
    simp [safeMemoryAccess, bind_apply, readBytes_apply, h]

/-! ### Footprints -/

/-- A write of `d` at `o` inside `bs` keeps the size, puts `d` at `o`, and keeps every other
byte. -/
theorem overwrite_footprint {bs d : List UInt8} {o : Nat} (h : o + d.length ≤ bs.length) :
    (overwrite bs o d).length = bs.length ∧ ((overwrite bs o d).drop o).take d.length = d ∧
      ∀ i, i < o ∨ o + d.length ≤ i → (overwrite bs o d)[i]? = bs[i]? :=
  ⟨length_overwrite _ _ _, take_drop_overwrite h, fun _ hi => getElem?_overwrite_of_not_mem hi⟩

/-- `copy_memory` on disjoint ranges, as `copy_nonoverlapping` requires, and `safe_memory_write`
change their destination range and nothing else. On success the memory keeps its size and
every byte outside the destination, and the destination holds the source's bytes as they
were, or the closure's result on the range's old bytes. On failure nothing changes. -/
theorem memory_writers_change_only_destination :
    (∀ (σ : Type) (s s' : Instance σ) (src dst length : Nat), length < 2 ^ 32 →
      (src + length ≤ dst ∨ dst + length ≤ src) →
      ((copyMemory src dst length : HostFn σ Unit) s = .ok () s' →
        s'.memory.bytes.length = s.memory.bytes.length ∧
        (s'.memory.bytes.drop dst).take length = (s.memory.bytes.drop src).take length ∧
        ∀ i, i < dst ∨ dst + length ≤ i → s'.memory.bytes[i]? = s.memory.bytes[i]?) ∧
      (∀ e, (copyMemory src dst length : HostFn σ Unit) s = .error e s' → s' = s)) ∧
    (∀ (σ : Type) (s s' : Instance σ) (offset length : Nat) (operation : SliceUpdate),
      ((safeMemoryWrite offset length operation : HostFn σ Unit) s = .ok () s' →
        s'.memory.bytes.length = s.memory.bytes.length ∧
        (s'.memory.bytes.drop offset).take length =
          operation ((s.memory.bytes.drop offset).take length) ∧
        ∀ i, i < offset ∨ offset + length ≤ i → s'.memory.bytes[i]? = s.memory.bytes[i]?) ∧
      (∀ e, (safeMemoryWrite offset length operation : HostFn σ Unit) s = .error e s' →
        s' = s)) := by
  refine ⟨fun σ s s' src dst length hl _ => ⟨fun h => ?_, fun e h => ?_⟩,
    fun σ s s' offset length operation => ⟨fun h => ?_, fun e h => ?_⟩⟩
  · rw [copyMemory_apply s src dst length hl] at h
    split_ifs at h with hs hd
    cases h
    have hlen := length_read_of_valid s hs
    have hfit := s.memory.validate_sound dst length hd
    simpa only [hlen] using overwrite_footprint (d := (s.memory.bytes.drop src).take length)
      (by omega)
  · rw [copyMemory_apply s src dst length hl] at h
    split_ifs at h <;> cases h <;> rfl
  · rw [safeMemoryWrite_apply] at h
    split_ifs at h with hv
    cases h
    have hlen : (operation ((s.memory.bytes.drop offset).take length)).1.length = length :=
      (operation _).2.trans (length_read_of_valid s hv)
    have hfit := s.memory.validate_sound offset length hv
    simpa only [hlen] using overwrite_footprint
      (d := (operation ((s.memory.bytes.drop offset).take length)).1) (by omega)
  · rw [safeMemoryWrite_apply] at h
    split_ifs at h
    cases h
    rfl

end DtvmEvm
