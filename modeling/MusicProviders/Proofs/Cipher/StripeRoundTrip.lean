import MusicProviders.Proofs.Cipher.BlockInverse

/-! # Stripe decryption restores the served audio

A player asks the CDN for a file from the start of segment `s` on and feeds the answer,
cut into network chunks of any sizes, to `decryptStream` numbered from `s`. The bytes it
yields are exactly the plain file from byte `2048 * s` on, however the chunks fall.

The stream is described by `decryptedFrom`: what it yields for a byte string read from a
given segment on. Two equations characterise it (`decryptedFrom_of_lt`,
`decryptedFrom_of_le`); the re-chunking loop produces it for every cut of the input
(`stripeItems_ok`), because draining the full segments of a buffer never disturbs what
follows (`decryptedFrom_append`). On the other side, dropping whole segments of a served
file is serving the rest of the file from a later segment (`stripeEncrypt_go_drop`), and
each served segment comes back through `emitSegment`.
-/

namespace MusicProviders.Stripe

open Blowfish

section Segments

variable (schedule : Schedule)

/-- The bytes the stream yields for `bytes` read from segment `index` on: every full
segment as it is emitted, and then the rest as it is. -/
def decryptedFrom (index : Nat) (bytes : Bytes) : Bytes :=
  (drainSegments schedule index bytes).1.flatten ++ (drainSegments schedule index bytes).2

theorem decryptedFrom_of_lt {index : Nat} {bytes : Bytes} (short : bytes.length < segmentSize) :
    decryptedFrom schedule index bytes = bytes := by
  have noSegment : bytes.length / segmentSize = 0 := Nat.div_eq_of_lt short
  simp [decryptedFrom, drainSegments, noSegment, drainSegments.go]

theorem decryptedFrom_of_le {index : Nat} {bytes : Bytes} (long : segmentSize ≤ bytes.length) :
    decryptedFrom schedule index bytes =
      emitSegment schedule index (bytes.take segmentSize) ++
        decryptedFrom schedule (index + 1) (bytes.drop segmentSize) := by
  have count :
      bytes.length / segmentSize = (bytes.drop segmentSize).length / segmentSize + 1 := by
    rw [List.length_drop, Nat.div_eq_sub_div (by decide) long]
  simp only [decryptedFrom, drainSegments, count, drainSegments.go, List.flatten_cons,
    List.append_assoc]

theorem drainSegments_go_length :
    ∀ (n index : Nat) (buffer : Bytes), (drainSegments.go schedule n index buffer).1.length = n
  | 0, _, _ => rfl
  | n + 1, index, buffer => by
    simp [drainSegments.go, drainSegments_go_length n]

theorem drainSegments_go_rest :
    ∀ (n index : Nat) (buffer : Bytes),
      (drainSegments.go schedule n index buffer).2 = buffer.drop (segmentSize * n)
  | 0, _, _ => rfl
  | n + 1, index, buffer => by
    simp only [drainSegments.go, drainSegments_go_rest n, List.drop_drop, Nat.mul_succ,
      Nat.add_comm segmentSize]

theorem length_drainSegments_rest (index : Nat) (bytes : Bytes) :
    (drainSegments schedule index bytes).2.length < segmentSize := by
  rw [drainSegments, drainSegments_go_rest, List.length_drop]
  unfold segmentSize
  omega

/-- Draining the full segments at the front of `front` and reading on from what is left
yields what reading `front` and `back` together yields. -/
theorem decryptedFrom_append :
    ∀ (n index : Nat) (front back : Bytes), segmentSize * n ≤ front.length →
      decryptedFrom schedule index (front ++ back) =
        (drainSegments.go schedule n index front).1.flatten ++
          decryptedFrom schedule (index + n) ((drainSegments.go schedule n index front).2 ++ back)
  | 0, _, _, _, _ => rfl
  | n + 1, index, front, back, enough => by
    rw [Nat.mul_succ] at enough
    have long : segmentSize ≤ (front ++ back).length := by
      simp only [List.length_append]
      omega
    have rest := decryptedFrom_append n (index + 1) (front.drop segmentSize) back
      (by simp only [List.length_drop]; omega)
    rw [decryptedFrom_of_le schedule long, List.take_append_of_le_length (by omega),
      List.drop_append_of_le_length (by omega), rest,
      show index + (n + 1) = index + 1 + n by omega]
    simp only [drainSegments.go, List.flatten_cons, List.append_assoc]

end Segments

/-! ## The re-chunking loop -/

section Loop

variable (schedule : Schedule)

theorem stripeItems_cons_ok (index : Nat) (buffer chunk : Bytes) (rest : List (Outcome Bytes)) :
    stripeItems schedule index buffer (.ok chunk :: rest) =
      (drainSegments schedule index (buffer ++ chunk)).1.map .ok ++
        stripeItems schedule (index + (drainSegments schedule index (buffer ++ chunk)).1.length)
          (drainSegments schedule index (buffer ++ chunk)).2 rest :=
  rfl

/-- However the input is cut into chunks, the loop yields only pieces, and together they
are what the input yields read from the loop's segment on. The buffer holds less than a
segment between chunks; the induction is on the chunks. -/
theorem stripeItems_ok :
    ∀ (chunks : List Bytes) (index : Nat) (buffer : Bytes), buffer.length < segmentSize →
      ∃ pieces : List Bytes,
        stripeItems schedule index buffer (chunks.map .ok) = pieces.map .ok ∧
        pieces.flatten = decryptedFrom schedule index (buffer ++ chunks.flatten)
  | [], index, buffer, short => by
    refine ⟨if buffer.isEmpty then [] else [buffer], ?_, ?_⟩
    · cases buffer <;> rfl
    · rw [List.flatten_nil, List.append_nil, decryptedFrom_of_lt schedule short]
      cases buffer <;> simp
  | chunk :: chunks, index, buffer, _ => by
    obtain ⟨pieces, items, joined⟩ := stripeItems_ok chunks
      (index + (drainSegments schedule index (buffer ++ chunk)).1.length)
      (drainSegments schedule index (buffer ++ chunk)).2 (length_drainSegments_rest schedule _ _)
    refine ⟨(drainSegments schedule index (buffer ++ chunk)).1 ++ pieces, ?_, ?_⟩
    · rw [List.map_cons, stripeItems_cons_ok, items, List.map_append]
    · rw [List.flatten_append, joined, List.flatten_cons, ← List.append_assoc,
        drainSegments, drainSegments_go_length,
        decryptedFrom_append schedule _ index (buffer ++ chunk) chunks.flatten
          (Nat.mul_div_le _ _)]

end Loop

/-! ## The served file -/

section Served

variable (schedule : Schedule)

theorem length_encryptSegment (index : Nat) (segment : Bytes) :
    (encryptSegment schedule index segment).length = segment.length := by
  unfold encryptSegment encryptChunk
  split
  · exact length_cbcEncrypt schedule _ segment
  · rfl

theorem emitSegment_encryptSegment (index : Nat) (segment : Bytes) :
    emitSegment schedule index (encryptSegment schedule index segment) = segment := by
  unfold emitSegment encryptSegment decryptChunk encryptChunk
  split
  · exact cbcDecrypt_cbcEncrypt schedule rfl segment
  · rfl

theorem length_stripeEncrypt_go :
    ∀ (n index : Nat) (rest : Bytes), segmentSize * n ≤ rest.length →
      (stripeEncrypt.go schedule n index rest).length = rest.length
  | 0, _, _, _ => rfl
  | n + 1, index, rest, enough => by
    rw [Nat.mul_succ] at enough
    have tail := length_stripeEncrypt_go n (index + 1) (rest.drop segmentSize)
      (by simp only [List.length_drop]; omega)
    simp only [stripeEncrypt.go, List.length_append, length_encryptSegment, tail,
      List.length_take, List.length_drop]
    omega

/-- Dropping `j` whole segments of a served file leaves the rest of the file served from
segment `index + j` on. -/
theorem stripeEncrypt_go_drop :
    ∀ (j n index : Nat) (rest : Bytes), j ≤ n → segmentSize * n ≤ rest.length →
      (stripeEncrypt.go schedule n index rest).drop (segmentSize * j) =
        stripeEncrypt.go schedule (n - j) (index + j) (rest.drop (segmentSize * j))
  | 0, _, _, _, _, _ => rfl
  | j + 1, 0, _, _, beyond, _ => by omega
  | j + 1, n + 1, index, rest, within, enough => by
    rw [Nat.mul_succ] at enough
    have full : (encryptSegment schedule index (rest.take segmentSize)).length = segmentSize := by
      rw [length_encryptSegment, List.length_take]
      omega
    have tail := stripeEncrypt_go_drop j n (index + 1) (rest.drop segmentSize) (by omega)
      (by simp only [List.length_drop]; omega)
    rw [stripeEncrypt.go, Nat.mul_succ, Nat.add_comm, ← List.drop_drop, List.drop_left' full,
      tail, List.drop_drop, Nat.add_comm segmentSize, ← Nat.mul_succ, Nat.add_sub_add_right,
      Nat.add_right_comm, Nat.add_assoc]

/-- Reading a served file back from the segment it starts at gives the plain file. -/
theorem decryptedFrom_stripeEncrypt_go :
    ∀ (n index : Nat) (rest : Bytes), rest.length / segmentSize = n →
      decryptedFrom schedule index (stripeEncrypt.go schedule n index rest) = rest
  | 0, index, rest, noSegment => by
    have short : rest.length < segmentSize := by
      unfold segmentSize at noSegment ⊢
      omega
    exact decryptedFrom_of_lt schedule short
  | n + 1, index, rest, count => by
    have long : segmentSize ≤ rest.length := by
      unfold segmentSize at count ⊢
      omega
    have full : (encryptSegment schedule index (rest.take segmentSize)).length = segmentSize := by
      rw [length_encryptSegment, List.length_take]
      omega
    have tail := decryptedFrom_stripeEncrypt_go n (index + 1) (rest.drop segmentSize)
      (by rw [List.length_drop]; unfold segmentSize at count ⊢; omega)
    have served : segmentSize ≤ (stripeEncrypt.go schedule (n + 1) index rest).length := by
      rw [stripeEncrypt.go, List.length_append, full]
      omega
    rw [decryptedFrom_of_le schedule served, stripeEncrypt.go, List.take_left' full,
      List.drop_left' full, emitSegment_encryptSegment, tail, List.take_append_drop]

end Served

/-- Stripe round trip: the CDN's copy of a plain file, requested from segment
`firstSegment` on and cut into chunks in any way, is decrypted into pieces only, and
the pieces together are the plain file from that segment on. The key may be any key. -/
theorem decryptStream_stripeEncrypt (key plain : Bytes) (firstSegment : Nat)
    (chunks : List Bytes)
    (cut : chunks.flatten = (stripeEncrypt plain key).drop (segmentSize * firstSegment)) :
    ∃ pieces : List Bytes, decryptStream (chunks.map .ok) key firstSegment = pieces.map .ok ∧
      pieces.flatten = plain.drop (segmentSize * firstSegment) := by
  obtain ⟨pieces, items, joined⟩ :=
    stripeItems_ok (Schedule.expand key) chunks firstSegment [] (by decide)
  refine ⟨pieces, items, ?_⟩
  rw [joined, List.nil_append, cut]
  -- a request past the end of the file gets nothing, and nothing is left of the file
  by_cases inside : firstSegment ≤ plain.length / segmentSize
  · rw [stripeEncrypt, stripeEncrypt_go_drop _ firstSegment _ 0 plain inside (Nat.mul_div_le _ _),
      Nat.zero_add]
    apply decryptedFrom_stripeEncrypt_go
    rw [List.length_drop]
    unfold segmentSize at inside ⊢
    omega
  · have past : plain.length ≤ segmentSize * firstSegment := by
      unfold segmentSize at inside ⊢
      omega
    have served : (stripeEncrypt plain key).length ≤ segmentSize * firstSegment := by
      rw [stripeEncrypt, length_stripeEncrypt_go _ _ _ _ (Nat.mul_div_le _ _)]
      exact past
    rw [List.drop_eq_nil_of_le served, List.drop_eq_nil_of_le past]
    exact decryptedFrom_of_lt _ (by decide)

/-- Bytes cut into chunks of the given sizes, in order, and what is left as the last chunk:
how a network may hand over a body. -/
def cutAt : List Nat → Bytes → List Bytes
  | [], bytes => [bytes]
  | n :: sizes, bytes => bytes.take n :: cutAt sizes (bytes.drop n)

theorem flatten_cutAt : ∀ (sizes : List Nat) (bytes : Bytes), (cutAt sizes bytes).flatten = bytes
  | [], bytes => by simp [cutAt]
  | n :: sizes, bytes => by
    rw [cutAt, List.flatten_cons, flatten_cutAt sizes, List.take_append_drop]

/-- A file of four full segments and 808 bytes more, served from segment one on and
handed over in chunks of 1000, 0 and 4000 bytes and the rest: chunks end inside segments,
and segment three, the one encrypted segment served, is split between the last two
chunks. The stream gives back the file from byte 2048 on. -/
theorem decryptStream_stripeEncrypt_from_segment_one :
    ∃ pieces : List Bytes,
      decryptStream ((cutAt [1000, 0, 4000]
          ((stripeEncrypt ((List.range 9000).map UInt8.ofNat) (blowfishKey "3135556")).drop
            (segmentSize * 1))).map .ok) (blowfishKey "3135556") 1 = pieces.map .ok ∧
        pieces.flatten = ((List.range 9000).map UInt8.ofNat).drop (segmentSize * 1) :=
  decryptStream_stripeEncrypt (blowfishKey "3135556") ((List.range 9000).map UInt8.ofNat) 1 _
    (flatten_cutAt _ _)

end MusicProviders.Stripe
