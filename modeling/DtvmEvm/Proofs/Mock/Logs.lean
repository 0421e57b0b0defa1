import DtvmEvm.Proofs.MemoryAccess

/-!
# `DtvmEvm.Proofs.Mock.Logs`: what `emit_log_event` appends

`log::emit_log_event` checks the topic count, validates and reads the data, reads the first
`num_topics` topics in order, and then hands the host one `LogEvent` with the frame's
address. A topic offset of `0` stands for the zero word; any other is validated and read
(`topicBytes`). `LogArgsValid` collects the checks. For every host, `emitLogEvent_apply`
says the primitive either passes them all and hands the host exactly the event its
arguments describe, or fails with `Err` and changes nothing, so no event reaches the host.

The mock appends the event to its `events` cell, an `Rc<RefCell<Vec<LogEvent>>>` that every
frame of a run shares. That cell is a projection of the history of writes: the `logEmitted`
events of the history, in order (`Cells.LogCoherent`). The builder's empty cells have it,
and every recorded event keeps it (`LogCoherent.record`), so every call of every frame of a
run, at any nesting depth, sees the emissions of the whole run in the order they were made.

The main results:

* `emitLogEvent_apply`: the checks of `emit_log_event` and the event it emits, for every
  host;
* `Cells.LogCoherent.recordAll`: the event cell is the log of the history;
* `emitLogEvent_appends_event`: the two, and the append of the mock, together.
-/

set_option autoImplicit false

namespace DtvmEvm

/-! ### The checks and the event -/

/-- The 32 bytes of a topic: the zero word for offset `0`, the word at the offset otherwise. -/
def topicBytes (bytes : List UInt8) (topicOffset : BitVec 32) : List UInt8 :=
  if topicOffset = 0 then List.replicate 32 0 else (bytes.drop topicOffset.toNat).take 32

/-- The check of one topic offset: `0`, or a non-negative offset of a valid word. -/
def TopicValid (m : Memory) (topicOffset : BitVec 32) : Prop :=
  topicOffset ≠ 0 → 0 ≤ topicOffset.toInt ∧ m.validateWasmAddr topicOffset.toNat 32 = true

instance (m : Memory) (topicOffset : BitVec 32) : Decidable (TopicValid m topicOffset) :=
  inferInstanceAs (Decidable (topicOffset ≠ 0 →
    0 ≤ topicOffset.toInt ∧ m.validateWasmAddr topicOffset.toNat 32 = true))

/-- The checks of `emit_log_event`: a topic count in `[0, 4]`, a valid data range, and a valid
offset for each of the first `num_topics` topics. -/
def LogArgsValid (m : Memory) (dataOffset length numTopics : BitVec 32)
    (topicOffsets : List (BitVec 32)) : Prop :=
  0 ≤ numTopics.toInt ∧ numTopics.toInt ≤ 4 ∧ 0 ≤ dataOffset.toInt ∧ 0 ≤ length.toInt ∧
    m.validateWasmAddr dataOffset.toNat length.toNat = true ∧
    ∀ t ∈ topicOffsets.take numTopics.toNat, TopicValid m t

instance (m : Memory) (dataOffset length numTopics : BitVec 32)
    (topicOffsets : List (BitVec 32)) :
    Decidable (LogArgsValid m dataOffset length numTopics topicOffsets) :=
  inferInstanceAs (Decidable (0 ≤ numTopics.toInt ∧ numTopics.toInt ≤ 4 ∧ 0 ≤ dataOffset.toInt ∧
    0 ≤ length.toInt ∧ m.validateWasmAddr dataOffset.toNat length.toNat = true ∧
    ∀ t ∈ topicOffsets.take numTopics.toNat, TopicValid m t))

namespace HostFn

variable {σ α β γ : Type} {s : Instance σ}

theorem FailsAt.of_bind_ok {x : HostFn σ α} {f : α → HostFn σ β} {a : α}
    (hx : x s = .ok a s) (hf : FailsAt s (f a)) : FailsAt s (x >>= f) := by
  rw [FailsAt, bind_of_ok hx]
  exact hf

/-- A loop of passes that each succeed at `s` without a change succeeds without a change,
with the results in order. -/
theorem listMapM_ok {g : α → HostFn σ β} {f : β → γ} {v : α → γ} {l : List α}
    (h : ∀ a ∈ l, ∃ b, f b = v a ∧ g a s = .ok b s) :
    ∃ bs, bs.map f = l.map v ∧ l.mapM g s = .ok bs s := by
  induction l with
  | nil => exact ⟨[], rfl, rfl⟩
  | cons a l ih =>
    obtain ⟨b, hb, hg⟩ := h a (List.mem_cons_self a l)
    obtain ⟨bs, hbs, hl⟩ := ih fun a' ha' => h a' (List.mem_cons_of_mem a ha')
    refine ⟨b :: bs, by rw [List.map_cons, List.map_cons, hb, hbs], ?_⟩
    rw [List.mapM_cons, bind_of_ok hg, bind_of_ok hl]
    rfl

end HostFn

namespace HostFunctions

open HostFn MemoryAccessor

variable {σ : Type} (host : EvmHost σ) {s : Instance σ}

/-- A topic count that passes the range check is at most `4` as a `u32`. -/
theorem toNat_le_four_of_toInt {numTopics : BitVec 32} (h0 : 0 ≤ numTopics.toInt)
    (h4 : numTopics.toInt ≤ 4) : numTopics.toNat ≤ 4 := by
  by_cases hc : 2 * numTopics.toNat < 2 ^ 32
  · rw [BitVec.toInt_eq_toNat_cond, if_pos hc] at h4; omega
  · rw [BitVec.toInt_eq_toNat_cond, if_neg hc] at h0; have := numTopics.isLt; omega

/-- A topic that passes its check is read without a change. -/
theorem readTopic_of_valid {t : BitVec 32} (ht : TopicValid s.memory t) :
    ∃ w : Word, w.bytes = topicBytes s.memory.bytes t ∧ readTopic t s = .ok w s := by
  unfold readTopic topicBytes
  by_cases h0 : t = 0
  · rw [if_neg (not_not.mpr h0), if_pos h0]
    exact ⟨_, rfl, rfl⟩
  · obtain ⟨ho, hv⟩ := ht h0
    rw [if_pos h0, if_neg h0, validateBytes32Param,
      bind_of_ok (validateOffsetForType_of_valid _ ho hv), readBytes32, readFixed_of_valid _ hv]
    exact ⟨_, rfl, rfl⟩

/-- `emit_log_event`, for every host: when its checks pass it hands the host one event, with
the frame's address, the data range, and exactly the first `num_topics` topics in order;
otherwise it returns `Err` and changes nothing. -/
theorem emitLogEvent_apply (dataOffset length numTopics t1 t2 t3 t4 : BitVec 32) :
    (LogArgsValid s.memory dataOffset length numTopics [t1, t2, t3, t4] →
      ∃ event : LogEvent, event.contractAddress = host.getAddress s.extraCtx ∧
        event.data = (s.memory.bytes.drop dataOffset.toNat).take length.toNat ∧
        event.topics.length = numTopics.toNat ∧
        event.topics.map FixedBytes.bytes =
          ([t1, t2, t3, t4].take numTopics.toNat).map (topicBytes s.memory.bytes) ∧
        emitLogEvent host dataOffset length numTopics t1 t2 t3 t4 s =
          .ok () { s with extraCtx := host.emitLogEvent s.extraCtx event }) ∧
    (¬LogArgsValid s.memory dataOffset length numTopics [t1, t2, t3, t4] →
      FailsAt s (emitLogEvent host dataOffset length numTopics t1 t2 t3 t4)) := by
  refine ⟨fun ⟨hn0, hn4, hd, hl, hv, ht⟩ => ?_, fun hinv => ?_⟩
  · -- every check passes
    obtain ⟨ws, hws, hm⟩ := listMapM_ok (f := FixedBytes.bytes) (v := topicBytes s.memory.bytes)
      fun t h => readTopic_of_valid (ht t h)
    refine ⟨⟨host.getAddress s.extraCtx, (s.memory.bytes.drop dataOffset.toNat).take length.toNat,
      ws⟩, rfl, rfl, ?_, hws, ?_⟩
    · have := toNat_le_four_of_toInt hn0 hn4
      rw [← List.length_map ws FixedBytes.bytes, hws, List.length_map, List.length_take]
      simp only [List.length_cons, List.length_nil]
      omega
    unfold emitLogEvent
    rw [if_neg (by omega), bind_of_ok (x := (pure () : HostFn σ Unit)) rfl]
    simp only [bind_of_ok (validateDataParam_of_valid _ hd hl hv), readBytesVec,
      bind_of_ok (readBytes_of_valid s hv), bind_of_ok hm, hostState_bind, setHostState_apply]
  · -- the first check that fails
    unfold emitLogEvent
    split
    · exact failsAt_throw _
    rw [FailsAt, bind_of_ok (x := (pure () : HostFn σ Unit)) rfl]
    by_cases hdata : 0 ≤ dataOffset.toInt ∧ 0 ≤ length.toInt ∧
        s.memory.validateWasmAddr dataOffset.toNat length.toNat = true
    · -- a topic
      obtain ⟨hd, hl, hv⟩ := hdata
      obtain ⟨t, htm, htv⟩ : ∃ t ∈ [t1, t2, t3, t4].take numTopics.toNat,
          ¬TopicValid s.memory t := by
        by_contra hall
        push_neg at hall
        exact hinv ⟨by omega, by omega, hd, hl, hv, hall⟩
      obtain ⟨h0, htv⟩ := Classical.not_imp.mp htv
      exact FailsAt.of_bind_ok (validateDataParam_of_valid _ hd hl hv) <|
        (check_readBytes _ _).failsAt_bind fun _ =>
          (failsAt_listMapM check_readTopic htm (failsAt_readTopic h0 htv)).bind
    · -- the data range
      exact (failsAt_validateDataParam_of_invalid _ hdata).bind

end HostFunctions

/-! ### The event cell of the mock -/

/-- The event an entry of the history emitted, if it is an emission. -/
def Event.logged : Event → Option LogEvent
  | .logEmitted event => some event
  | _ => none

/-- The event cell holds the emissions of the history, in order. -/
def Cells.LogCoherent (c : Cells) : Prop :=
  c.events = c.history.filterMap Event.logged

theorem Cells.logCoherent_empty : Cells.empty.LogCoherent := rfl

theorem Cells.LogCoherent.record {c : Cells} (hc : c.LogCoherent) (e : Event) :
    (c.record e).LogCoherent := by
  unfold Cells.LogCoherent at hc ⊢
  rw [Cells.history_record, List.filterMap_append, ← hc]
  cases e <;> simp only [Cells.record, Cells.apply, Event.logged, List.filterMap_cons,
    List.filterMap_nil, List.append_nil]

theorem Cells.LogCoherent.recordAll {c : Cells} (hc : c.LogCoherent) (es : List Event) :
    (c.recordAll es).LogCoherent := by
  induction es generalizing c with
  | nil => exact hc
  | cons e es ih => exact ih (hc.record e)

/-- Log emission end to end. For every host, `emit_log_event` either fails its checks and
returns `Err` with nothing changed, or hands the host one event: the frame's address, the
data range, and exactly `num_topics` topics, the word at each offset or the zero word for
offset `0`. The mock appends that event to the end of its shared event list and records it
in the history. Every call of every frame of a run, at any depth, sees the list as the
emissions of the run's history, in the order they were made. -/
theorem emitLogEvent_appends_event :
    (∀ (σ : Type) (host : EvmHost σ) (dataOffset length numTopics t1 t2 t3 t4 : BitVec 32)
      (s : Instance σ),
      (¬LogArgsValid s.memory dataOffset length numTopics [t1, t2, t3, t4] →
        ∃ e, HostFunctions.emitLogEvent host dataOffset length numTopics t1 t2 t3 t4 s =
          .error (.error e) s) ∧
      (LogArgsValid s.memory dataOffset length numTopics [t1, t2, t3, t4] →
        ∃ event : LogEvent, event.contractAddress = host.getAddress s.extraCtx ∧
          event.data = (s.memory.bytes.drop dataOffset.toNat).take length.toNat ∧
          event.topics.length = numTopics.toNat ∧
          event.topics.map FixedBytes.bytes =
            ([t1, t2, t3, t4].take numTopics.toNat).map (topicBytes s.memory.bytes) ∧
          HostFunctions.emitLogEvent host dataOffset length numTopics t1 t2 t3 t4 s =
            .ok () { s with extraCtx := host.emitLogEvent s.extraCtx event })) ∧
    (∀ (env : Env) (run : EntryRun) (s : MockContext) (event : LogEvent),
      ((mockHost env run).emitLogEvent s event).cells.events = s.cells.events ++ [event] ∧
      ((mockHost env run).emitLogEvent s event).cells.history =
        s.cells.history ++ [.logEmitted event]) ∧
    (∀ (env : Env) (depth : Nat) (name : String) (ctx frame : MockContext) (memory : Memory)
      (es : List Event) (c : HostCall) (inst : Instance MockContext),
      ctx.cells = Cells.empty.recordAll es → startFrame env ctx = .ok (memory, frame) →
      (env.entry frame.contractCode name frame.getGasLimit.toNat).Calls
        (mockHost env (runEntry env depth)) c (.start memory frame frame.getGasLimit.toNat) inst →
      inst.extraCtx.cells.events = inst.extraCtx.cells.history.filterMap Event.logged) := by
  refine ⟨fun _ host dataOffset length numTopics t1 t2 t3 t4 _ =>
    (HostFunctions.emitLogEvent_apply host dataOffset length numTopics t1 t2 t3 t4).symm,
    fun _ _ _ _ => ⟨rfl, rfl⟩, ?_⟩
  intro env depth name ctx frame memory es c inst hcells hstart hcall
  obtain ⟨es', hes'⟩ := frameCall_recorded env depth name hstart hcall
  rw [hes', hcells, ← Cells.recordAll_append]
  exact Cells.logCoherent_empty.recordAll _

end DtvmEvm
