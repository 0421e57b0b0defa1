import DtvmEvm.Proofs.Mock.Frames

/-!
# `DtvmEvm.Proofs.Mock.Storage`: a load reads the latest store

The mock keeps storage in one `Rc<RefCell<HashMap<String, Vec<u8>>>>` that every frame of a
run shares. So what a load returns is a function of the history of writes, whichever frames
made them and however they nest: the value of the latest store to the key, or the zero word
when there is none (`latestStore`).

`Cells.StorageCoherent` states this of one state of the cells. The builder's empty cells
have it, and every recorded event keeps it (`StorageCoherent.record`). The only step with an
argument is a store to another key. Such a store leaves the key's entry alone because
`storageKey` is injective (`storageKey_injective`): `hex::encode` writes two digits per byte,
and `Nat.digitChar` tells the sixteen digits apart.

The main results:

* `storageLoad_ok`, `storageStore_ok`: what a successful bridge primitive did, for every
  host;
* `StorageCoherent.recordAll`: every history recorded on the empty cells is coherent;
* `frameCall_recorded`: every call of every frame, at any depth, is made on such cells;
* `storage_loads_latest_store`: the four together for the mock host.
-/

set_option autoImplicit false

namespace DtvmEvm

/-! ### The history's meaning -/

/-- The value `e` stores under `key`, when `e` is a store to `key`. -/
def Event.storedAt (key : Word) : Event → Option Word
  | .storageStored k value => if k = key then some value else none
  | _ => none

/-- The value of the latest store to `key` in `history`; the zero word if there is none. -/
def latestStore (key : Word) (history : List Event) : Word :=
  history.foldl (fun v e => (e.storedAt key).getD v) (.zero 32)

@[simp] theorem latestStore_nil (key : Word) : latestStore key [] = .zero 32 := rfl

@[simp] theorem latestStore_append_singleton (key : Word) (history : List Event) (e : Event) :
    latestStore key (history ++ [e]) = (e.storedAt key).getD (latestStore key history) := by
  simp only [latestStore, List.foldl_append, List.foldl_cons, List.foldl_nil]

/-! ### Storage keys -/

/-- `Nat.digitChar` tells the sixteen hex digits apart. -/
theorem digitChar_injective : ∀ m n : Fin 16, Nat.digitChar m = Nat.digitChar n → m = n := by
  decide

/-- A byte is determined by its two hex digits. -/
theorem byte_eq_of_hexDigits {a b : UInt8}
    (h : [Nat.digitChar (a.toNat / 16), Nat.digitChar (a.toNat % 16)] =
      [Nat.digitChar (b.toNat / 16), Nat.digitChar (b.toNat % 16)]) : a = b := by
  simp only [List.cons.injEq, and_true] at h
  have ha : a.toNat < 256 := a.toNat_lt_size
  have hb : b.toNat < 256 := b.toNat_lt_size
  have hi := digitChar_injective ⟨a.toNat / 16, by omega⟩ ⟨b.toNat / 16, by omega⟩ h.1
  have hl := digitChar_injective ⟨a.toNat % 16, by omega⟩ ⟨b.toNat % 16, by omega⟩ h.2
  simp only [Fin.mk.injEq] at hi hl
  exact UInt8.toNat.inj (by omega)

theorem hexEncode_injective {bs bs' : List UInt8} (h : hexEncode bs = hexEncode bs') :
    bs = bs' := by
  replace h := congrArg String.data h
  simp only [hexEncode] at h
  induction bs generalizing bs' with
  | nil => cases bs' <;> simp_all
  | cons a bs ih =>
    cases bs' with
    | nil => simp at h
    | cons b bs' =>
      simp only [List.flatMap_cons, List.cons_append, List.nil_append, List.cons.injEq] at h
      obtain ⟨h₁, h₂, h⟩ := h
      have hab : a = b := byte_eq_of_hexDigits (by rw [h₁, h₂])
      rw [hab, ih h]

/-- Distinct keys have distinct storage keys: `format!("0x{}", hex::encode(key))` loses
nothing. -/
theorem storageKey_injective {key key' : Word} (h : storageKey key = storageKey key') :
    key = key' := by
  replace h := congrArg String.data h
  simp only [storageKey, String.data_append, List.append_cancel_left_eq] at h
  exact FixedBytes.ext (hexEncode_injective (String.ext h))

/-! ### Loads over the storage cell -/

section Loads

variable {storage storage' : String → Option Bytes} {key : Word}

theorem storageLoadValue_congr (h : storage (storageKey key) = storage' (storageKey key)) :
    storageLoadValue storage key = storageLoadValue storage' key := by
  simp only [storageLoadValue, h]

theorem storageLoadValue_of_some {value : Word} (h : storage (storageKey key) = some value.bytes) :
    storageLoadValue storage key = value := by
  ext1; simp [storageLoadValue, h, value.length_eq]

theorem storageLoadValue_of_none (h : storage (storageKey key) = none) :
    storageLoadValue storage key = .zero 32 := by
  ext1; simp [storageLoadValue, h]

end Loads

/-- A store to one key leaves the load of every other key as it was. -/
theorem storageLoad_storageStore_of_ne (s : MockContext) {key key' : Word} (value : Word)
    (h : key' ≠ key) : (s.storageStore key' value).storageLoad key = s.storageLoad key := by
  have hne : storageKey key ≠ storageKey key' := fun he => h (storageKey_injective he).symm
  exact storageLoadValue_congr (by
    simp [MockContext.storageStore, MockContext.record, Cells.record, Cells.apply, hne])

/-! ### The coherence invariant -/

/-- Every key's load returns the latest store to it in the history. -/
def Cells.StorageCoherent (c : Cells) : Prop :=
  ∀ key, storageLoadValue c.storage key = latestStore key c.history

theorem Cells.storageCoherent_empty : Cells.empty.StorageCoherent :=
  fun _ => storageLoadValue_of_none rfl

theorem Cells.StorageCoherent.record {c : Cells} (hc : c.StorageCoherent) (e : Event) :
    (c.record e).StorageCoherent := by
  intro key
  rw [Cells.history_record, latestStore_append_singleton]
  cases e with
  | storageStored k v =>
    by_cases hk : k = key
    · subst hk
      simpa [Event.storedAt] using
        storageLoadValue_of_some (by simp [Cells.record, Cells.apply] : _ = some v.bytes)
    · have hne : storageKey key ≠ storageKey k := fun h => hk (storageKey_injective h).symm
      simp only [Event.storedAt, hk, if_false, Option.getD_none]
      exact (storageLoadValue_congr (by simp [Cells.record, Cells.apply, hne])).trans (hc key)
  | _ => exact hc key

theorem Cells.StorageCoherent.recordAll {c : Cells} (hc : c.StorageCoherent) (es : List Event) :
    (c.recordAll es).StorageCoherent := by
  induction es generalizing c with
  | nil => exact hc
  | cons e es ih => exact ih (hc.record e)

/-! ### The bridge primitives -/

namespace HostFunctions

open HostFn MemoryAccessor

variable {σ : Type} {host : EvmHost σ} {s s' : Instance σ}

/-- A load that succeeds read a whole key and wrote the host's value for it at the result
offset, changing nothing else. -/
theorem storageLoad_ok {keyOffset resultOffset : BitVec 32}
    (h : storageLoad host keyOffset resultOffset s = .ok () s') :
    ∃ key : Word, key.bytes = (s.memory.bytes.drop keyOffset.toNat).take 32 ∧
      s' = { s with
        memory := s.memory.overwrite resultOffset.toNat (host.storageLoad s.extraCtx key).bytes } := by
  simp only [storageLoad, bind_apply, readBytes32, readFixed_apply] at h
  by_cases hk : s.memory.validateWasmAddr keyOffset.toNat 32 = true
  · simp only [hk, dite_true, hostState_apply, writeBytes32, writeBytes_apply] at h
    split at h
    · cases h; exact ⟨_, rfl, rfl⟩
    · cases h
  · simp only [hk, dite_false] at h; cases h

/-- A store that succeeds read a whole key and value and handed them to the host, changing
nothing else. -/
theorem storageStore_ok {keyOffset valueOffset : BitVec 32}
    (h : storageStore host keyOffset valueOffset s = .ok () s') :
    ∃ key value : Word, key.bytes = (s.memory.bytes.drop keyOffset.toNat).take 32 ∧
      value.bytes = (s.memory.bytes.drop valueOffset.toNat).take 32 ∧
      s' = { s with extraCtx := host.storageStore s.extraCtx key value } := by
  simp only [storageStore, bind_apply, readBytes32, readFixed_apply] at h
  by_cases hk : s.memory.validateWasmAddr keyOffset.toNat 32 = true
  · by_cases hv : s.memory.validateWasmAddr valueOffset.toNat 32 = true
    · simp only [hk, hv, dite_true, hostState_apply, setHostState_apply] at h
      cases h; exact ⟨_, _, rfl, rfl, rfl⟩
    · simp only [hk, hv, dite_true, dite_false] at h; cases h
  · simp only [hk, dite_false] at h; cases h

end HostFunctions

/-! ### Runs -/

/-- Every call of a frame, at any nesting depth, is made on the cells its context had with
events recorded. A child frame's context has its parent's cells at the sub-call, so this
covers the calls of every frame of a run. -/
theorem frameCall_recorded (env : Env) (depth : Nat) (name : String) {ctx frame : MockContext}
    {memory : Memory} {c : HostCall} {inst : Instance MockContext}
    (hstart : startFrame env ctx = .ok (memory, frame))
    (hcall : (env.entry frame.contractCode name frame.getGasLimit.toNat).Calls
      (mockHost env (runEntry env depth)) c (.start memory frame frame.getGasLimit.toNat) inst) :
    ∃ es, inst.extraCtx.cells = ctx.cells.recordAll es := by
  obtain ⟨es, hes, -⟩ := ((startFrame_evolves hstart).trans
    (hcall.mockHost_evolves (runEntry_evolves env depth))).2
  exact ⟨es, hes⟩

/-- Storage over the mock host, through the bridge. A load writes the latest store to its key
in the history of the cells, whichever frames made the stores. A store records itself in
that history. A store to another key does not change a load. And every call of every frame
of a run is made on cells whose history is recorded on the builder's empty cells. -/
theorem storage_loads_latest_store (env : Env) (run : EntryRun) :
    (∀ (es : List Event) (inst inst' : Instance MockContext) (keyOffset resultOffset : BitVec 32),
      inst.extraCtx.cells = Cells.empty.recordAll es →
      HostFunctions.storageLoad (mockHost env run) keyOffset resultOffset inst = .ok () inst' →
      ∃ key : Word, key.bytes = (inst.memory.bytes.drop keyOffset.toNat).take 32 ∧
        inst' = { inst with memory :=
          inst.memory.overwrite resultOffset.toNat (latestStore key es).bytes }) ∧
    (∀ (inst inst' : Instance MockContext) (keyOffset valueOffset : BitVec 32),
      HostFunctions.storageStore (mockHost env run) keyOffset valueOffset inst = .ok () inst' →
      ∃ key value : Word, key.bytes = (inst.memory.bytes.drop keyOffset.toNat).take 32 ∧
        value.bytes = (inst.memory.bytes.drop valueOffset.toNat).take 32 ∧
        inst'.extraCtx.cells = inst.extraCtx.cells.record (.storageStored key value)) ∧
    (∀ (s : MockContext) (key key' value : Word), key' ≠ key →
      (s.storageStore key' value).storageLoad key = s.storageLoad key) ∧
    (∀ (depth : Nat) (name : String) (ctx frame : MockContext) (memory : Memory) (es : List Event)
      (c : HostCall) (inst : Instance MockContext),
      ctx.cells = Cells.empty.recordAll es → startFrame env ctx = .ok (memory, frame) →
      (env.entry frame.contractCode name frame.getGasLimit.toNat).Calls
        (mockHost env (runEntry env depth)) c (.start memory frame frame.getGasLimit.toNat) inst →
      ∃ es', inst.extraCtx.cells = Cells.empty.recordAll (es ++ es')) := by
  refine ⟨?load, ?store, fun s _ _ value h => storageLoad_storageStore_of_ne s value h, ?runs⟩
  case load =>
    intro es inst inst' _ _ hcells h
    obtain ⟨key, hkey, rfl⟩ := HostFunctions.storageLoad_ok h
    have hload : (mockHost env run).storageLoad inst.extraCtx key = latestStore key es := by
      show storageLoadValue inst.extraCtx.cells.storage key = _
      rw [hcells]
      simpa only [Cells.history_recordAll, Cells.history_empty, List.nil_append] using
        Cells.storageCoherent_empty.recordAll es key
    exact ⟨key, hkey, by rw [hload]⟩
  case store =>
    intro inst inst' _ _ h
    obtain ⟨key, value, hkey, hvalue, rfl⟩ := HostFunctions.storageStore_ok h
    exact ⟨key, value, hkey, hvalue, rfl⟩
  case runs =>
    intro depth name ctx frame memory es c inst hcells hstart hcall
    obtain ⟨es', hes'⟩ := frameCall_recorded env depth name hstart hcall
    exact ⟨es', by rw [hes', hcells, Cells.recordAll_append]⟩

end DtvmEvm
