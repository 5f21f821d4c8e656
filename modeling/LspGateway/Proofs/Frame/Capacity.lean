import LspGateway.Proofs.Frame.Encoding

/-!
# Streams that fill up

Frames that are written one after the other to a stream that holds so many bytes leave on it the
first bytes that they have together. A frame is written without a failure exactly if it still
fits as a whole and the stream can be flushed; from the first that does not fit on none is, and
nothing more is put on the stream.
-/

namespace LspGateway.Frame

open Sink (Sound)

variable {sink : Sink}

/-- Frames are written one after the other, whether or not one of them fails. -/
def writeEach (sink : Sink) : List Bytes → Sink × List (Except Fault Unit)
  | [] => (sink, [])
  | payload :: payloads =>
    let (sink, result) := write sink payload
    let (sink, results) := writeEach sink payloads
    (sink, result :: results)

/-- The stream holds the first bytes of what was on it and of the frames. -/
theorem writeEach_fst (sound : sink.Sound) (payloads : List Bytes) :
    (writeEach sink payloads).1 =
      sink.holding (sink.clip (sink.bytes ++ payloads.flatMap encode)) := by
  induction payloads generalizing sink with
  | nil =>
    rw [List.flatMap_nil, List.append_nil, Sink.clip_of_fits sound.fits, sound.holding_bytes]
    rfl
  | cons payload payloads ih =>
    have later := sound.holding_clip (sink.bytes ++ encode payload)
    rw [writeEach, write_eq sound]
    dsimp only
    rw [ih later, Sink.bytes_holding, Sink.holding_holding, Sink.clip_holding,
      Sink.clip_clip_append, List.append_assoc, List.flatMap_cons]

/-- A frame has some bytes. -/
theorem encode_ne_nil (payload : Bytes) : encode payload ≠ [] := by
  apply List.ne_nil_of_length_pos
  rw [encode, List.length_append, header_length]
  omega

/-- The result of a frame is that of the flush if the frames up to it fit. -/
theorem getElem?_writeEach (sound : sink.Sound) {payloads : List Bytes} {n : Nat}
    (within : n < payloads.length) :
    (writeEach sink payloads).2[n]? =
      some (sink.resultAt (sink.bytes ++ (payloads.take (n + 1)).flatMap encode).length) := by
  induction payloads generalizing sink n with
  | nil => exact absurd within (Nat.not_lt_zero n)
  | cons payload payloads ih =>
    have later := sound.holding_clip (sink.bytes ++ encode payload)
    rw [writeEach, write_eq sound]
    dsimp only
    cases n with
    | zero => simp
    | succ n =>
      have within : n < payloads.length := Nat.lt_of_succ_lt_succ within
      have filled : (payloads.take (n + 1)).flatMap encode ≠ [] := by
        obtain ⟨first, others, rfl⟩ :=
          List.exists_cons_of_length_pos (Nat.lt_of_le_of_lt n.zero_le within)
        rw [List.take_succ_cons, List.flatMap_cons]
        exact List.append_ne_nil_of_left_ne_nil (encode_ne_nil first) _
      rw [List.getElem?_cons_succ, ih later within, List.take_succ_cons, List.flatMap_cons,
        Sink.bytes_holding, ← List.append_assoc]
      exact congrArg some (Sink.resultAt_congr rfl (Sink.fits_clip_append filled))

/-- Every frame has its result. -/
theorem length_writeEach (sink : Sink) (payloads : List Bytes) :
    (writeEach sink payloads).2.length = payloads.length := by
  induction payloads generalizing sink with
  | nil => rfl
  | cons payload payloads ih => exact congrArg (· + 1) (ih _)

/-! ## Filling a stream -/

/-- What comes of writing frames one after the other to a stream. -/
structure FillsUp (sink : Sink) (payloads : List Bytes) : Prop where
  /-- The stream holds the first bytes of the frames, as many as it can. -/
  held : (writeEach sink payloads).1.bytes = sink.clip (payloads.flatMap encode)
  /-- Every frame has its result. -/
  answered : (writeEach sink payloads).2.length = payloads.length
  /-- It is a success exactly if the stream can be flushed and the frames up to this one are
  within the limit. -/
  succeeds : ∀ n < payloads.length, (writeEach sink payloads).2[n]? = some (.ok ()) ↔
    sink.flushFailure = none ∧
      ∀ limit ∈ sink.limit, ((payloads.take (n + 1)).flatMap encode).length ≤ limit
  /-- Where flushes succeed, no frame behind one that failed succeeds or adds anything. -/
  spent : sink.flushFailure = none → ∀ n k, n ≤ k → k < payloads.length →
    (writeEach sink payloads).2[n]? ≠ some (.ok ()) →
      (writeEach sink payloads).2[k]? ≠ some (.ok ()) ∧
        (writeEach sink (payloads.take (k + 1))).1 = (writeEach sink (payloads.take (n + 1))).1
  /-- Of a stream with the same limit the same bytes are held, in whatever chunks it takes them
  and whether or not it can be flushed, and with the same flushes it has the same results. -/
  alike : ∀ other : Sink, other.Sound → other.bytes = [] → other.limit = sink.limit →
    (writeEach other payloads).1.bytes = (writeEach sink payloads).1.bytes ∧
      (other.flushFailure = sink.flushFailure →
        (writeEach other payloads).2 = (writeEach sink payloads).2)

/-- A stream that holds nothing yet fills up with the frames that are written to it. -/
theorem fillsUp (sound : sink.Sound) (empty : sink.bytes = []) (payloads : List Bytes) :
    FillsUp sink payloads := by
  have held {sink : Sink} (sound : sink.Sound) (empty : sink.bytes = []) (payloads : List Bytes) :
      (writeEach sink payloads).1 = sink.holding (sink.clip (payloads.flatMap encode)) := by
    rw [writeEach_fst sound, empty, List.nil_append]
  have result {sink : Sink} (sound : sink.Sound) (empty : sink.bytes = []) {n : Nat}
      (within : n < payloads.length) : (writeEach sink payloads).2[n]? =
        some (sink.resultAt ((payloads.take (n + 1)).flatMap encode).length) := by
    rw [getElem?_writeEach sound within, empty, List.nil_append]
  have succeeds {n : Nat} (within : n < payloads.length) :
      (writeEach sink payloads).2[n]? = some (.ok ()) ↔ sink.flushFailure = none ∧
        sink.Fits ((payloads.take (n + 1)).flatMap encode).length := by
    rw [result sound empty within, Option.some.injEq, Sink.resultAt_eq_ok_iff]
  refine ⟨?_, length_writeEach sink payloads, fun n within => succeeds within, ?_, ?_⟩
  · rw [held sound empty, Sink.bytes_holding]
  · intro flushes n k order within failed
    have exceeds : ¬ sink.Fits ((payloads.take (n + 1)).flatMap encode).length :=
      fun fits => failed ((succeeds (Nat.lt_of_le_of_lt order within)).mpr ⟨flushes, fits⟩)
    obtain ⟨more, longer⟩ : ∃ more, (payloads.take (k + 1)).flatMap encode =
        (payloads.take (n + 1)).flatMap encode ++ more := by
      obtain ⟨later, hlater⟩ := List.take_prefix_take_left (l := payloads) (Nat.succ_le_succ order)
      exact ⟨later.flatMap encode, by rw [← hlater, List.flatMap_append]⟩
    constructor
    · rw [ne_eq, succeeds within, longer]
      exact fun ok => exceeds ok.2.of_append
    · rw [held sound empty, held sound empty, longer, Sink.clip_append_of_not_fits exceeds]
  · intro other soundly bare limit
    constructor
    · rw [held soundly bare, held sound empty, Sink.bytes_holding, Sink.bytes_holding]
      unfold Sink.clip
      rw [limit]
    · intro flushes
      apply List.ext_getElem?
      intro n
      by_cases within : n < payloads.length
      · rw [result soundly bare within, result sound empty within]
        have same : other.Fits ((payloads.take (n + 1)).flatMap encode).length ↔
            sink.Fits ((payloads.take (n + 1)).flatMap encode).length := by
          unfold Sink.Fits
          rw [limit]
        rw [Sink.resultAt_congr flushes same]
      · have beyond (sink : Sink) : (writeEach sink payloads).2[n]? = none := by
          rw [List.getElem?_eq_none_iff, length_writeEach]
          exact Nat.le_of_not_lt within
        rw [beyond, beyond]

/-- A stream that takes three bytes at once and has room for thirty holds the first of two frames
and the first seven bytes of the second one, which fails. -/
theorem fillsUp_of_thirty :
    FillsUp ⟨[], 0, some 3, some 30, none, none, false⟩ [[0x7B, 0x7D], [0x5B, 0x5D]] ∧
      (writeEach ⟨[], 0, some 3, some 30, none, none, false⟩ [[0x7B, 0x7D], [0x5B, 0x5D]]).2[0]? =
        some (.ok ()) ∧
      (writeEach ⟨[], 0, some 3, some 30, none, none, false⟩ [[0x7B, 0x7D], [0x5B, 0x5D]]).2[1]? ≠
        some (.ok ()) := by
  have fills : FillsUp ⟨[], 0, some 3, some 30, none, none, false⟩ [[0x7B, 0x7D], [0x5B, 0x5D]] :=
    fillsUp ⟨rfl, by decide, by decide⟩ rfl [[0x7B, 0x7D], [0x5B, 0x5D]]
  have size (payload : Bytes) (short : payload.length = 2) : (encode payload).length = 23 := by
    rw [encode, List.length_append, header_length, short]
    decide
  refine ⟨fills, (fills.succeeds 0 (by decide)).mpr ⟨rfl, ?_⟩,
    fun ok => absurd (((fills.succeeds 1 (by decide)).mp ok).2 30 rfl) ?_⟩
  · rintro _ ⟨⟩
    simp [size]
  · simp [size]

end LspGateway.Frame
