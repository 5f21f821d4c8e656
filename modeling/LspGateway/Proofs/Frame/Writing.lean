import LspGateway.Frame.Writer
import Mathlib.Data.List.Basic
import Mathlib.Order.MinMax

/-!
# Writing to a stream

A stream takes so many bytes at once and holds so many in all. However its writes are cut, what
is written to it stands on it as far as there is room, and a write fails exactly if there is not
enough. So a frame is written as a whole, up to the limit of the stream, and its result is that
of the flush unless the limit was reached.
-/

namespace LspGateway

namespace Sink

/-- A stream that knows how many bytes it holds, takes some at once, and holds no more than its
limit. -/
structure Sound (sink : Sink) : Prop where
  /-- It knows how many bytes it holds. -/
  counted : sink.held = sink.bytes.length
  /-- It takes some bytes at once. -/
  some : sink.chunk ≠ Option.some 0
  /-- It is within its limit. -/
  within : ∀ limit ∈ sink.limit, sink.held ≤ limit

/-- Whether so many bytes are within the limit of a stream, if it has one. -/
def Fits (sink : Sink) (size : Nat) : Prop :=
  ∀ limit ∈ sink.limit, size ≤ limit

instance (sink : Sink) (size : Nat) : Decidable (sink.Fits size) :=
  inferInstanceAs (Decidable (∀ limit ∈ sink.limit, size ≤ limit))

/-- The first of some bytes, as many as a stream holds. -/
def clip (sink : Sink) (bytes : Bytes) : Bytes :=
  match sink.limit with
  | some limit => bytes.take limit
  | none => bytes

/-- The stream with other bytes on it. -/
def holding (sink : Sink) (bytes : Bytes) : Sink :=
  { sink with reversed := bytes.reverse, held := bytes.length }

/-- The bytes that were put on it are on it. -/
@[simp] theorem bytes_holding (sink : Sink) (bytes : Bytes) : (sink.holding bytes).bytes = bytes :=
  List.reverse_reverse bytes

/-- Only the last bytes put on it count. -/
@[simp] theorem holding_holding (sink : Sink) (before after : Bytes) :
    (sink.holding before).holding after = sink.holding after := rfl

/-- The limit does not depend on what is on the stream. -/
@[simp] theorem clip_holding (sink : Sink) (before bytes : Bytes) :
    (sink.holding before).clip bytes = sink.clip bytes := rfl

variable {sink : Sink} {bytes more offer : Bytes}

/-- Nor does what fits. -/
theorem fits_holding {size : Nat} : (sink.holding bytes).Fits size ↔ sink.Fits size := Iff.rfl

/-- Nothing is cut of bytes that fit. -/
theorem clip_of_fits (fits : sink.Fits bytes.length) : sink.clip bytes = bytes := by
  unfold clip
  split
  · next limit bound => exact List.take_of_length_le (fits limit bound)
  · rfl

/-- Fewer bytes fit as well. -/
theorem Fits.of_append (fits : sink.Fits (bytes ++ more).length) : sink.Fits bytes.length := by
  intro limit bound
  have whole := fits limit bound
  rw [List.length_append] at whole
  omega

/-- A limit is what bytes do not fit that do not. -/
theorem exists_limit_of_not_fits {size : Nat} (exceeds : ¬ sink.Fits size) :
    ∃ limit, sink.limit = Option.some limit ∧ limit < size := by
  unfold Fits at exceeds
  push Not at exceeds
  exact exceeds

/-- Whatever follows bytes that do not fit is cut off. -/
theorem clip_append_of_not_fits (exceeds : ¬ sink.Fits bytes.length) (more : Bytes) :
    sink.clip (bytes ++ more) = sink.clip bytes := by
  obtain ⟨limit, bound, above⟩ := exists_limit_of_not_fits exceeds
  unfold clip
  rw [bound]
  exact List.take_append_of_le_length (Nat.le_of_lt above)

/-- It does not matter whether bytes are cut before others are put behind them. -/
theorem clip_clip_append (sink : Sink) (bytes more : Bytes) :
    sink.clip (sink.clip bytes ++ more) = sink.clip (bytes ++ more) := by
  by_cases fits : sink.Fits bytes.length
  · rw [clip_of_fits fits]
  · obtain ⟨limit, bound, above⟩ := exists_limit_of_not_fits fits
    rw [clip_append_of_not_fits fits]
    unfold clip
    rw [bound]
    dsimp only
    rw [List.take_append_of_le_length (by rw [List.length_take]; omega), List.take_take, min_self]

/-- Bytes behind those that are cut fit exactly if they fit behind all of them, unless there
are none. -/
theorem fits_clip_append (filled : more ≠ []) :
    sink.Fits (sink.clip bytes ++ more).length ↔ sink.Fits (bytes ++ more).length := by
  have some := List.length_pos_of_ne_nil filled
  unfold Fits clip
  split
  · next limit bound =>
    simp only [bound, Option.mem_some_iff, forall_eq', List.length_append, List.length_take]
    omega
  · exact Iff.rfl

/-- A stream within its limit holds what is on it. -/
theorem Sound.holding_bytes (sound : sink.Sound) : sink.holding sink.bytes = sink := by
  obtain ⟨counted, -, -⟩ := sound
  unfold holding
  rw [← counted, bytes, List.reverse_reverse]

/-- What is on it fits. -/
theorem Sound.fits (sound : sink.Sound) : sink.Fits sink.bytes.length :=
  sound.counted ▸ sound.within

/-- With bytes on it that were cut it is sound again. -/
theorem Sound.holding_clip (sound : sink.Sound) (bytes : Bytes) :
    (sink.holding (sink.clip bytes)).Sound := by
  refine ⟨congrArg List.length (bytes_holding sink _).symm, sound.some, fun limit bound => ?_⟩
  have bound : sink.limit = Option.some limit := bound
  change (sink.clip bytes).length ≤ limit
  rw [clip, bound, List.length_take]
  exact min_le_left limit _

/-! ## Repeated writes -/

/-- A write takes no more than it is offered and there is room for, and it takes nothing only
if there is no room. -/
theorem Sound.accepts_spec (sound : sink.Sound) {size : Nat} (filled : 0 < size) :
    sink.accepts size ≤ size ∧ (∀ limit ∈ sink.limit, sink.held + sink.accepts size ≤ limit) ∧
      (sink.accepts size = 0 → sink.limit = Option.some sink.held) := by
  obtain ⟨-, some, within⟩ := sound
  have offered : ∃ count, 0 < count ∧ count ≤ size ∧
      sink.accepts size = match sink.limit with
        | Option.some limit => min count (limit - sink.held)
        | none => count := by
    unfold accepts
    cases bound : sink.chunk with
    | none => exact ⟨size, filled, le_rfl, rfl⟩
    | some chunk =>
      have hchunk : 0 < chunk := Nat.pos_of_ne_zero fun none => some (none ▸ bound)
      exact ⟨min chunk size, lt_min hchunk filled, min_le_right _ _, rfl⟩
  obtain ⟨count, hcount, hsize, same⟩ := offered
  rw [same]
  cases bound : sink.limit with
  | none => exact ⟨hsize, nofun, fun spent => absurd spent hcount.ne'⟩
  | some limit =>
    have room := within limit bound
    dsimp only
    refine ⟨(min_le_left _ _).trans hsize, ?_, fun spent => congrArg Option.some ?_⟩
    · rintro _ ⟨⟩
      omega
    · omega

/-- What a write takes is put behind the bytes on the stream. -/
theorem Sound.take (sound : sink.Sound) {count : Nat} (offer : Bytes)
    (room : ∀ limit ∈ sink.limit, sink.held + count ≤ limit) :
    (sink.take count offer).Sound ∧
      (sink.take count offer).bytes = sink.bytes ++ offer.take count := by
  have bytes : (sink.take count offer).bytes = sink.bytes ++ offer.take count := by
    simp [Sink.bytes, Sink.take]
  refine ⟨⟨?_, sound.some, fun limit bound => ?_⟩, bytes⟩
  · rw [bytes, List.length_append, ← sound.counted]
    rfl
  · have enough := room limit bound
    change sink.held + (offer.take count).length ≤ limit
    rw [List.length_take]
    omega

/-- Repeated writes put an offer on the stream, as far as there is room, and they fail exactly
if there is not enough. -/
theorem Sound.writeLoop_eq {fuel : Nat} (sound : sink.Sound) (enough : offer.length ≤ fuel) :
    writeLoop fuel sink offer = (sink.holding (sink.clip (sink.bytes ++ offer)),
      if sink.Fits (sink.bytes ++ offer).length then .ok () else .error full) := by
  have nothing {sink : Sink} (sound : sink.Sound) : (sink, (.ok () : Except StreamFailure Unit)) =
      (sink.holding (sink.clip (sink.bytes ++ [])),
        if sink.Fits (sink.bytes ++ []).length then .ok () else .error full) := by
    rw [List.append_nil, clip_of_fits sound.fits, sound.holding_bytes, if_pos sound.fits]
  induction fuel generalizing sink offer with
  | zero =>
    rw [List.eq_nil_of_length_eq_zero (Nat.le_zero.mp enough)]
    exact nothing sound
  | succ fuel ih =>
    cases offer with
    | nil => exact nothing sound
    | cons byte offer =>
      have filled : 0 < (byte :: offer).length := Nat.succ_pos _
      obtain ⟨-, room, spent⟩ := sound.accepts_spec filled
      rw [writeLoop]
      split
      · next none =>
        -- The stream is full, so what is on it stays.
        have bound := spent none
        have exceeds : ¬ sink.Fits (sink.bytes ++ byte :: offer).length := by
          intro fits
          have fits := fits _ bound
          rw [List.length_append, List.length_cons, sound.counted] at fits
          omega
        have cut : sink.clip (sink.bytes ++ byte :: offer) = sink.bytes := by
          rw [clip, bound, sound.counted]
          exact List.take_left
        rw [cut, sound.holding_bytes, if_neg exceeds]
      · next count some =>
        obtain ⟨later, bytes⟩ := sound.take (byte :: offer) room
        have shorter :
            ((byte :: offer).drop (sink.accepts (byte :: offer).length)).length ≤ fuel := by
          have taken : sink.accepts (byte :: offer).length ≠ 0 := some
          rw [List.length_drop]
          omega
        rw [ih later shorter, bytes, List.append_assoc, List.take_append_drop]
        rfl

/-- The result of a write after which there would be so many bytes on the stream if there were
room for them. -/
def resultAt (sink : Sink) (size : Nat) : Except Frame.Fault Unit :=
  if sink.Fits size then sink.flush.mapError .stream else .error (.stream full)

/-- It depends on how the stream is flushed and whether they fit. -/
theorem resultAt_congr {other : Sink} {size count : Nat}
    (flushes : sink.flushFailure = other.flushFailure) (same : sink.Fits size ↔ other.Fits count) :
    sink.resultAt size = other.resultAt count := by
  unfold resultAt flush
  rw [flushes]
  exact if_congr same rfl rfl

/-- It is a success exactly if they fit and the stream can be flushed. -/
theorem resultAt_eq_ok_iff {size : Nat} :
    sink.resultAt size = .ok () ↔ sink.flushFailure = none ∧ sink.Fits size := by
  unfold resultAt flush
  split
  · next fits => cases sink.flushFailure <;> simp [fits, Except.mapError]
  · next exceeds => simp [exceeds]

end Sink

namespace Frame

open Sink (Sound)

variable {sink : Sink}

/-- A frame is put on the stream as far as there is room, and its result is that of the flush
if there is enough. -/
theorem write_eq (sound : sink.Sound) (payload : Bytes) :
    write sink payload = (sink.holding (sink.clip (sink.bytes ++ encode payload)),
      sink.resultAt (sink.bytes ++ encode payload).length) := by
  unfold write Sink.writeAll encode
  rw [sound.writeLoop_eq le_rfl, ← List.append_assoc]
  by_cases head : sink.Fits (sink.bytes ++ header payload).length
  · have later : (sink.holding (sink.bytes ++ header payload)).Sound :=
      Sink.clip_of_fits head ▸ sound.holding_clip (sink.bytes ++ header payload)
    rw [if_pos head, Sink.clip_of_fits head]
    dsimp only
    rw [later.writeLoop_eq le_rfl, Sink.bytes_holding, Sink.holding_holding, Sink.clip_holding]
    by_cases whole : sink.Fits (sink.bytes ++ header payload ++ payload).length
    · rw [if_pos (Sink.fits_holding.mpr whole), Sink.resultAt, if_pos whole]
      unfold Sink.flush Sink.holding
      cases sink.flushFailure <;> rfl
    · rw [if_neg (Sink.fits_holding.not.mpr whole), Sink.resultAt, if_neg whole]
  · rw [if_neg head, Sink.resultAt, if_neg fun whole => head whole.of_append,
      Sink.clip_append_of_not_fits head]

end Frame

end LspGateway
