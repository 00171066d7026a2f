import MusicProviders.Proofs.Cipher.StripeRoundTrip

/-! # The decrypted stream, segment by segment

`decryptStream` yields the same items however the network cuts its input: every full
2048-byte segment of the input, decrypted when its index is selected, and then the bytes
after the last full segment when there are any (`decryptStream_eq_segmentPieces`). Every
piece but the last is a whole segment, and together they are as long as the input.

A failed chunk ends the stream: the whole segments of the bytes received before it come
first, then the failure itself, and the bytes still buffered are dropped
(`decryptStream_of_failed_chunk`).

Segment `j` of a stream started at segment `s` has the 64-bit index `s + j`, which wraps
past the largest index. Started at `2 ^ 64 - 1`, the second segment has index zero and is
decrypted, although `2 ^ 64` is not a multiple of three (`decryptStream_counter_wraps`).

The way there: draining a buffer emits its segments at consecutive indices
(`drainSegments_eq`), draining the front of a buffer does not look past it
(`drainSegments_go_append`), and draining in two steps is draining at once
(`drainSegments_go_add`); so the re-chunking loop drains the chunks that arrive whole as
one, whatever comes after them (`stripeItems_append_ok`).
-/

namespace MusicProviders.Stripe

open Blowfish

/-- Segment `j` of a byte string: its bytes from `2048 * j` on, at most 2048 of them. -/
def segment (bytes : Bytes) (j : Nat) : Bytes := (bytes.drop (segmentSize * j)).take segmentSize

/-- The pieces of a stream of `bytes` in which segment `j` is decrypted exactly when
`encrypted j`: every full segment, then the bytes after the last full segment when there
are any. -/
def segmentPieces (schedule : Schedule) (encrypted : Nat → Bool) (bytes : Bytes) : List Bytes :=
  (List.range (bytes.length / segmentSize)).map (fun j =>
      if encrypted j then decryptChunk schedule (segment bytes j) else segment bytes j) ++
    (if (bytes.drop (segmentSize * (bytes.length / segmentSize))).isEmpty then []
     else [bytes.drop (segmentSize * (bytes.length / segmentSize))])

/-- The whole segments of `bytes`, segment `j` decrypted exactly when `encrypted j`: the
pieces of a stream that has received `bytes`, before what is left over. -/
def wholeSegments (schedule : Schedule) (encrypted : Nat → Bool) (bytes : Bytes) : List Bytes :=
  (List.range (bytes.length / segmentSize)).map fun j =>
    if encrypted j then decryptChunk schedule (segment bytes j) else segment bytes j

/-! ## Decrypting one segment -/

section Chunk

variable (schedule : Schedule)

@[simp] theorem length_decryptBytes (block : Bytes) : (decryptBytes schedule block).length = 8 := by
  simp [decryptBytes]

theorem length_cbcDecryptFrom_go :
    ∀ (n : Nat) (previous rest : Bytes), previous.length = 8 → 8 * n ≤ rest.length →
      (cbcDecryptFrom.go schedule n previous rest).length = rest.length
  | 0, _, _, _, _ => rfl
  | n + 1, previous, rest, oneBlock, enough => by
    have tail := length_cbcDecryptFrom_go n (rest.take 8) (rest.drop 8)
      (by simp only [List.length_take]; omega) (by simp only [List.length_drop]; omega)
    simp only [cbcDecryptFrom.go, List.length_append, length_xorBytes, length_decryptBytes,
      oneBlock, tail, List.length_drop]
    omega

theorem length_decryptChunk (data : Bytes) : (decryptChunk schedule data).length = data.length :=
  length_cbcDecryptFrom_go schedule _ initialVector data rfl (Nat.mul_div_le data.length 8)

theorem xorBytes_zeros {a : Bytes} (eight : a.length = 8) : xorBytes a (List.replicate 8 0) = a := by
  match a, eight with
  | [_, _, _, _, _, _, _, _], _ => simp [xorBytes]

/-- A segment of zero bytes never decrypts to itself: its first two cipher blocks are
equal, so their plain blocks differ by the initial vector, which is not zero. -/
theorem decryptChunk_zeros_ne : decryptChunk schedule (List.replicate 2048 0) ≠ List.replicate 2048 0 := by
  intro fixed
  have unfolded : decryptChunk schedule (List.replicate 2048 0) =
      xorBytes (decryptBytes schedule (List.replicate 8 0)) initialVector ++
        (xorBytes (decryptBytes schedule (List.replicate 8 0)) (List.replicate 8 0) ++
          cbcDecryptFrom.go schedule 254 (List.replicate 8 0) (List.replicate 2032 0)) := by
    rw [decryptChunk, cbcDecrypt, cbcDecryptFrom, List.length_replicate,
      show 2048 / 8 = 254 + 1 + 1 from rfl, cbcDecryptFrom.go.eq_2, cbcDecryptFrom.go.eq_2]
    simp only [List.take_replicate, List.drop_replicate]
    rfl
  have first := congrArg (List.take 8) fixed
  have second := congrArg (fun bytes => (bytes.drop 8).take 8) fixed
  rw [unfolded] at first second
  have eightBytes : (xorBytes (decryptBytes schedule (List.replicate 8 0)) initialVector).length = 8 := by
    simp [initialVector]
  simp only [List.take_left' eightBytes, List.drop_left' eightBytes, List.take_replicate] at first second
  rw [List.take_left' (by simp), xorBytes_zeros (length_decryptBytes _ _)] at second
  rw [second] at first
  exact absurd first (by decide)

end Chunk

/-! ## Draining a buffer -/

section Drain

variable (schedule : Schedule)

theorem segment_succ (bytes : Bytes) (j : Nat) :
    segment (bytes.drop segmentSize) j = segment bytes (j + 1) := by
  simp only [segment, List.drop_drop, Nat.mul_succ, Nat.add_comm]

/-- Draining `n` segments emits segment `j` of the buffer at index `index + j`. -/
theorem drainSegments_go_fst :
    ∀ (n index : Nat) (buffer : Bytes),
      (drainSegments.go schedule n index buffer).1 =
        (List.range n).map fun j => emitSegment schedule (index + j) (segment buffer j)
  | 0, _, _ => rfl
  | n + 1, index, buffer => by
    simp only [drainSegments.go, drainSegments_go_fst n, List.range_succ_eq_map, List.map_cons,
      List.map_map, Function.comp_def, segment_succ, Nat.add_zero, Nat.succ_eq_add_one,
      Nat.add_assoc, Nat.add_comm 1]
    rfl

theorem drainSegments_eq (index : Nat) (bytes : Bytes) :
    drainSegments schedule index bytes =
      ((List.range (bytes.length / segmentSize)).map fun j =>
          emitSegment schedule (index + j) (segment bytes j),
        bytes.drop (segmentSize * (bytes.length / segmentSize))) := by
  rw [drainSegments, ← drainSegments_go_fst, ← drainSegments_go_rest]

/-- Draining the first `n` segments of `front ++ back` reads only `front`. -/
theorem drainSegments_go_append :
    ∀ (n index : Nat) (front back : Bytes), segmentSize * n ≤ front.length →
      drainSegments.go schedule n index (front ++ back) =
        ((drainSegments.go schedule n index front).1,
          (drainSegments.go schedule n index front).2 ++ back)
  | 0, _, _, _, _ => rfl
  | n + 1, index, front, back, enough => by
    rw [Nat.mul_succ] at enough
    have tail := drainSegments_go_append n (index + 1) (front.drop segmentSize) back
      (by simp only [List.length_drop]; omega)
    simp only [drainSegments.go, List.take_append_of_le_length (by omega : segmentSize ≤ front.length),
      List.drop_append_of_le_length (by omega : segmentSize ≤ front.length), tail]

/-- Draining `n + k` segments drains `n`, then `k` more from what is left. -/
theorem drainSegments_go_add :
    ∀ (n k index : Nat) (buffer : Bytes),
      drainSegments.go schedule (n + k) index buffer =
        ((drainSegments.go schedule n index buffer).1 ++
            (drainSegments.go schedule k (index + n) (drainSegments.go schedule n index buffer).2).1,
          (drainSegments.go schedule k (index + n) (drainSegments.go schedule n index buffer).2).2)
  | 0, k, index, buffer => by simp [drainSegments.go]
  | n + 1, k, index, buffer => by
    rw [Nat.add_right_comm]
    simp only [drainSegments.go, drainSegments_go_add n k (index + 1), List.cons_append,
      Nat.add_assoc, Nat.add_comm 1]

/-- Draining a buffer and then what is left with more bytes after it is draining the
buffer and the bytes at once. -/
theorem drainSegments_append (index : Nat) (front back : Bytes) :
    drainSegments schedule index (front ++ back) =
      ((drainSegments schedule index front).1 ++
          (drainSegments schedule (index + front.length / segmentSize)
            ((drainSegments schedule index front).2 ++ back)).1,
        (drainSegments schedule (index + front.length / segmentSize)
          ((drainSegments schedule index front).2 ++ back)).2) := by
  have count : (front ++ back).length / segmentSize = front.length / segmentSize +
      ((front.drop (segmentSize * (front.length / segmentSize))) ++ back).length / segmentSize := by
    simp only [List.length_append, List.length_drop, segmentSize]
    omega
  rw [drainSegments, count, drainSegments_go_add, drainSegments_go_append _ _ _ _ _
      (Nat.mul_div_le _ _)]
  simp only [drainSegments, drainSegments_go_rest]

end Drain

/-! ## The re-chunking loop -/

section Loop

variable (schedule : Schedule)

/-- The last item of a stream: the bytes left over, when there are any. -/
def finalPiece (rest : Bytes) : List (Outcome Bytes) := if rest.isEmpty then [] else [.ok rest]

/-- Chunks that arrive whole are drained as one: the loop yields what one drain of the
buffer and those chunks yields, and goes on from what is left over with the rest of the
input. The induction is on the chunks; the buffer holds less than a segment between them. -/
theorem stripeItems_append_ok :
    ∀ (chunks : List Bytes) (index : Nat) (buffer : Bytes) (rest : List (Outcome Bytes)),
      buffer.length < segmentSize →
        stripeItems schedule index buffer (chunks.map .ok ++ rest) =
          (drainSegments schedule index (buffer ++ chunks.flatten)).1.map .ok ++
            stripeItems schedule
              (index + (drainSegments schedule index (buffer ++ chunks.flatten)).1.length)
              (drainSegments schedule index (buffer ++ chunks.flatten)).2 rest
  | [], index, buffer, rest, short => by
    have noSegment : buffer.length / segmentSize = 0 := Nat.div_eq_of_lt short
    simp [drainSegments, noSegment, drainSegments.go]
  | chunk :: chunks, index, buffer, rest, _ => by
    have tail := stripeItems_append_ok chunks
      (index + (drainSegments schedule index (buffer ++ chunk)).1.length)
      (drainSegments schedule index (buffer ++ chunk)).2 rest (length_drainSegments_rest schedule _ _)
    have count : (drainSegments schedule index (buffer ++ chunk)).1.length =
        (buffer ++ chunk).length / segmentSize := by
      rw [drainSegments, drainSegments_go_length]
    rw [List.map_cons, List.cons_append, stripeItems_cons_ok, tail, List.flatten_cons,
      ← List.append_assoc buffer chunk,
      drainSegments_append schedule index (buffer ++ chunk) chunks.flatten, ← count]
    simp only [List.map_append, List.append_assoc, List.length_append, Nat.add_assoc]

/-- However the input is cut into chunks, the loop yields what one drain of the buffer and
the whole input yields, and then what is left over. -/
theorem stripeItems_eq_drain (chunks : List Bytes) (index : Nat) (buffer : Bytes)
    (short : buffer.length < segmentSize) :
    stripeItems schedule index buffer (chunks.map .ok) =
      (drainSegments schedule index (buffer ++ chunks.flatten)).1.map .ok ++
        finalPiece (drainSegments schedule index (buffer ++ chunks.flatten)).2 := by
  have drained := stripeItems_append_ok schedule chunks index buffer [] short
  rw [List.append_nil] at drained
  rw [drained]
  -- at the end of the input the loop yields what is left over, when there is any
  rfl

end Loop

/-! ## The pieces of the stream -/

section Pieces

variable (schedule : Schedule)

theorem length_segment {bytes : Bytes} {j : Nat} (inside : j < bytes.length / segmentSize) :
    (segment bytes j).length = segmentSize := by
  have room : segmentSize * (j + 1) ≤ bytes.length :=
    Nat.le_trans (Nat.mul_le_mul_left _ inside) (Nat.mul_div_le _ _)
  simp only [segment, List.length_take, List.length_drop]
  rw [Nat.mul_succ] at room
  omega

theorem length_of_mem_wholeSegments {encrypted : Nat → Bool} {bytes piece : Bytes}
    (member : piece ∈ wholeSegments schedule encrypted bytes) : piece.length = segmentSize := by
  obtain ⟨j, inside, rfl⟩ := List.mem_map.1 member
  split <;> simp only [length_decryptChunk, length_segment (List.mem_range.1 inside)]

theorem segmentPieces_eq_wholeSegments (encrypted : Nat → Bool) (bytes : Bytes) :
    segmentPieces schedule encrypted bytes =
      wholeSegments schedule encrypted bytes ++
        (if (bytes.drop (segmentSize * (bytes.length / segmentSize))).isEmpty then []
         else [bytes.drop (segmentSize * (bytes.length / segmentSize))]) := rfl

theorem length_of_mem_segmentPieces_dropLast {encrypted : Nat → Bool} {bytes piece : Bytes}
    (member : piece ∈ (segmentPieces schedule encrypted bytes).dropLast) :
    piece.length = segmentSize := by
  rw [segmentPieces_eq_wholeSegments] at member
  split at member
  · exact length_of_mem_wholeSegments schedule (List.dropLast_subset _ (by simpa using member))
  · exact length_of_mem_wholeSegments schedule (by simpa [List.dropLast_concat] using member)

theorem length_flatten_wholeSegments (encrypted : Nat → Bool) (bytes : Bytes) :
    (wholeSegments schedule encrypted bytes).flatten.length =
      segmentSize * (bytes.length / segmentSize) := by
  rw [List.length_flatten, List.map_congr_left (g := fun _ => segmentSize)
    fun piece member => length_of_mem_wholeSegments schedule member, List.map_const',
    List.sum_replicate, smul_eq_mul, wholeSegments, List.length_map, List.length_range,
    Nat.mul_comm]

theorem length_flatten_segmentPieces (encrypted : Nat → Bool) (bytes : Bytes) :
    (segmentPieces schedule encrypted bytes).flatten.length = bytes.length := by
  have rest : (if (bytes.drop (segmentSize * (bytes.length / segmentSize))).isEmpty then []
      else [bytes.drop (segmentSize * (bytes.length / segmentSize))]).flatten.length =
        bytes.length - segmentSize * (bytes.length / segmentSize) := by
    split <;> simp_all
  rw [segmentPieces_eq_wholeSegments, List.flatten_append, List.length_append,
    length_flatten_wholeSegments, rest]
  have := Nat.mul_div_le bytes.length segmentSize
  omega

theorem decryptStream_eq_map (chunks : List Bytes) (key : Bytes) (firstSegment : Nat) :
    decryptStream (chunks.map .ok) key firstSegment =
      (segmentPieces (Schedule.expand key) (fun j => isEncryptedSegment (firstSegment + j))
        chunks.flatten).map .ok := by
  rw [decryptStream, stripeItems_eq_drain _ chunks firstSegment [] (by decide), List.nil_append,
    drainSegments_eq]
  simp only [segmentPieces, finalPiece, emitSegment, List.map_append, List.map_map,
    Function.comp_def]
  split <;> rfl

end Pieces

theorem isEncryptedSegment_eq (index : Nat) :
    isEncryptedSegment index = (index % 2 ^ 64 % 3 == 0) := by
  rw [isEncryptedSegment, Nat.pow_eq]

/-- However the network cuts the input, the decrypted stream yields every full segment of
the input, decrypted when the 64-bit index `firstSegment + j` of segment `j` is a multiple
of three, and then the bytes after the last full segment when there are any. Every piece
before the last is a whole segment, and the pieces together are as long as the input. -/
theorem decryptStream_eq_segmentPieces (chunks : List Bytes) (key : Bytes) (firstSegment : Nat) :
    decryptStream (chunks.map .ok) key firstSegment =
        (segmentPieces (Schedule.expand key) (fun j => (firstSegment + j) % 2 ^ 64 % 3 == 0)
          chunks.flatten).map .ok ∧
      (∀ piece ∈ (segmentPieces (Schedule.expand key)
          (fun j => (firstSegment + j) % 2 ^ 64 % 3 == 0) chunks.flatten).dropLast,
        piece.length = segmentSize) ∧
      (segmentPieces (Schedule.expand key) (fun j => (firstSegment + j) % 2 ^ 64 % 3 == 0)
        chunks.flatten).flatten.length = chunks.flatten.length := by
  refine ⟨?_, fun piece member => length_of_mem_segmentPieces_dropLast _ member,
    length_flatten_segmentPieces _ _ _⟩
  simpa only [isEncryptedSegment_eq] using decryptStream_eq_map chunks key firstSegment

/-- Started at the largest 64-bit index, a stream of two segments of zero bytes yields the
second segment decrypted: its index has wrapped around to zero. Counted without a bound
its index is `2 ^ 64`, which is not a multiple of three, so it would be yielded as it is. -/
theorem decryptStream_counter_wraps :
    decryptStream [.ok (List.replicate 4096 0)] (blowfishKey "42") (2 ^ 64 - 1) ≠
      (segmentPieces (Schedule.expand (blowfishKey "42")) (fun j => (2 ^ 64 - 1 + j) % 3 == 0)
        (List.replicate 4096 0)).map .ok := by
  -- the input is two segments of zero bytes and nothing more
  have zeros : ∀ j < 2, segment (List.replicate 4096 0) j = List.replicate 2048 0 := by
    intro j inside
    rw [segment, List.drop_replicate, List.take_replicate]
    congr 1
    unfold segmentSize
    omega
  have twoSegments : ∀ encrypted : Nat → Bool,
      segmentPieces (Schedule.expand (blowfishKey "42")) encrypted (List.replicate 4096 0) =
        [if encrypted 0 then decryptChunk (Schedule.expand (blowfishKey "42")) (List.replicate 2048 0)
          else List.replicate 2048 0,
         if encrypted 1 then decryptChunk (Schedule.expand (blowfishKey "42")) (List.replicate 2048 0)
          else List.replicate 2048 0] := by
    intro encrypted
    rw [segmentPieces, List.length_replicate, show 4096 / segmentSize = 2 from rfl,
      show List.range 2 = [0, 1] from rfl, List.map_cons, List.map_cons, List.map_nil,
      zeros 0 (by decide), zeros 1 (by decide), List.drop_replicate]
    rfl
  have asMap : [(Except.ok (List.replicate 4096 0) : Outcome Bytes)] =
      [List.replicate 4096 0].map .ok := rfl
  have wrapped : isEncryptedSegment (2 ^ 64 - 1 + 1) = true := by decide
  have counted : ((2 ^ 64 - 1 + 1) % 3 == 0) = false := by decide
  rw [asMap, decryptStream_eq_map, List.flatten_singleton, twoSegments, twoSegments]
  intro same
  rw [List.map_cons, List.map_cons, List.map_cons, List.map_cons] at same
  have second := Except.ok.inj (List.cons.inj (List.cons.inj same).2).1
  simp only [wrapped, counted, if_true, Bool.false_eq_true, if_false] at second
  exact decryptChunk_zeros_ne _ second

/-! ## A failed chunk -/

section Failure

variable (schedule : Schedule)

theorem drainSegments_fst (index : Nat) (bytes : Bytes) :
    (drainSegments schedule index bytes).1 =
      wholeSegments schedule (fun j => isEncryptedSegment (index + j)) bytes := by
  rw [drainSegments_eq]
  rfl

/-- The chunks received before a failed one are drained whole, and the failure ends the
stream at once: the bytes still buffered are dropped and nothing after it is read. -/
theorem decryptStream_append_error (chunks : List Bytes) (e : ProviderError)
    (rest : List (Outcome Bytes)) (key : Bytes) (firstSegment : Nat) :
    decryptStream (chunks.map .ok ++ .error e :: rest) key firstSegment =
      (wholeSegments (Schedule.expand key) (fun j => isEncryptedSegment (firstSegment + j))
        chunks.flatten).map .ok ++ [.error e] := by
  rw [decryptStream, stripeItems_append_ok _ chunks firstSegment [] _ (by decide),
    List.nil_append, drainSegments_fst]
  rfl

theorem wholeSegments_replicate (encrypted : Nat → Bool) (b : UInt8) (n : Nat) :
    wholeSegments schedule encrypted (List.replicate (segmentSize * n) b) =
      (List.range n).map fun j =>
        if encrypted j then decryptChunk schedule (List.replicate segmentSize b)
        else List.replicate segmentSize b := by
  have count : (List.replicate (segmentSize * n) b).length / segmentSize = n := by
    rw [List.length_replicate, Nat.mul_div_cancel_left n (by decide)]
  -- every segment of a run of one byte is that byte, a whole segment of it
  have segments : ∀ j ∈ List.range n,
      segment (List.replicate (segmentSize * n) b) j = List.replicate segmentSize b := by
    intro j inside
    have room : segmentSize * j + segmentSize ≤ segmentSize * n := by
      rw [← Nat.mul_succ]
      exact Nat.mul_le_mul_left _ (List.mem_range.1 inside)
    rw [segment, List.drop_replicate, List.take_replicate, Nat.min_eq_left (by omega)]
  rw [wholeSegments, count]
  exact List.map_congr_left fun j inside => by rw [segments j inside]

end Failure

/-- A failed chunk ends the stream: after chunks that arrived whole, the stream yields the
whole segments of the bytes they hold, segment `j` decrypted when the 64-bit index
`firstSegment + j` is a multiple of three, then the failure itself, and nothing more.
Every item before the failure is a whole segment: the bytes after the last whole segment
are never yielded, and no other failure ever is. -/
theorem decryptStream_of_failed_chunk (chunks : List Bytes) (e : ProviderError)
    (rest : List (Outcome Bytes)) (key : Bytes) (firstSegment : Nat) :
    decryptStream (chunks.map .ok ++ .error e :: rest) key firstSegment =
        (wholeSegments (Schedule.expand key) (fun j => (firstSegment + j) % 2 ^ 64 % 3 == 0)
          chunks.flatten).map .ok ++ [.error e] ∧
      ∀ piece ∈ wholeSegments (Schedule.expand key)
          (fun j => (firstSegment + j) % 2 ^ 64 % 3 == 0) chunks.flatten,
        piece.length = segmentSize := by
  refine ⟨?_, fun piece member => length_of_mem_wholeSegments _ member⟩
  simpa only [isEncryptedSegment_eq] using decryptStream_append_error chunks e rest key firstSegment

/-- Started at the largest 64-bit index, a stream of two segments of zero bytes followed by
a failed chunk yields the second segment decrypted: its index has wrapped around to zero.
Counted without a bound its index is `2 ^ 64`, which is not a multiple of three. -/
theorem decryptStream_failed_chunk_counter_wraps :
    decryptStream [.ok (List.replicate 4096 0), .error (.api "boom")] (blowfishKey "42")
        (2 ^ 64 - 1) ≠
      (wholeSegments (Schedule.expand (blowfishKey "42")) (fun j => (2 ^ 64 - 1 + j) % 3 == 0)
        (List.replicate 4096 0)).map .ok ++ [.error (.api "boom")] := by
  have asChunks : [(Except.ok (List.replicate 4096 0) : Outcome Bytes), .error (.api "boom")] =
      [List.replicate 4096 0].map .ok ++ [.error (.api "boom")] := rfl
  have twoSegments : List.replicate 4096 (0 : UInt8) = List.replicate (segmentSize * 2) 0 := rfl
  have wrapped : isEncryptedSegment (2 ^ 64 - 1 + 1) = true := by decide
  have counted : ((2 ^ 64 - 1 + 1) % 3 == 0) = false := by decide
  rw [asChunks, decryptStream_append_error, List.flatten_singleton, twoSegments,
    wholeSegments_replicate, wholeSegments_replicate, show List.range 2 = [0, 1] from rfl]
  intro same
  simp only [List.map_cons, List.map_nil, List.cons_append] at same
  have second := Except.ok.inj (List.cons.inj (List.cons.inj same).2).1
  simp only [wrapped, counted, if_true, Bool.false_eq_true, if_false] at second
  exact decryptChunk_zeros_ne _ second

end MusicProviders.Stripe
