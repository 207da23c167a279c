import Mathlib.Order.Nat

/-! # Payloads in chunks

Nodes send each other payloads in chunks of one megabyte, and an assembler puts them together
again. It holds one key at a time. A push that fails leaves the assembler as it is, except that
a last chunk with a wrong size or checksum has been added to the data already.

The checksum is a parameter: of the CRC-32 that both sides compute, nothing is used but that it
is a function of the data.
-/

namespace YedMQ.Raft

/-! ## Chunks -/

def chunkSize : Nat :=
  1024 * 1024

structure BulkSyncChunk where
  key : String
  data : List UInt8
  offset : Nat
  isLastChunk : Bool
  totalSize : Nat
  checksum : UInt32
deriving DecidableEq

variable (crc32 : List UInt8 → UInt32)

def chunkAt (key : String) (data : List UInt8) (offset : Nat) : BulkSyncChunk :=
  let size := data.length
  let stop := min (offset + chunkSize) size
  let last := decide (stop = size)
  { key
    data := (data.drop offset).take (stop - offset)
    offset
    isLastChunk := last
    totalSize := if last then size else 0
    checksum := if last then crc32 data else 0 }

/-- The chunks of a payload, one for each multiple of the chunk size below its size, and one if
it is empty. -/
def chunks (key : String) (data : List UInt8) : List BulkSyncChunk :=
  (List.range' 0 ((max data.length 1 - 1) / chunkSize + 1) chunkSize).map (chunkAt crc32 key data)

/-! ## The assembler -/

structure ChunkAssembler where
  current : Option (String × List UInt8)
deriving DecidableEq

namespace ChunkAssembler

def push (chunk : BulkSyncChunk) (assembler : ChunkAssembler) :
    ChunkAssembler × Except String (Option (String × List UInt8)) :=
  let (key, data) := assembler.current.getD (chunk.key, [])
  if key ≠ chunk.key then
    (⟨some (key, data)⟩, .error "interleaved payload keys")
  else if chunk.offset ≠ data.length then
    (⟨some (key, data)⟩, .error "invalid payload offset")
  else if chunk.data.isEmpty && !chunk.isLastChunk then
    (⟨some (key, data)⟩, .error "empty intermediate chunk")
  else
    let data := data ++ chunk.data
    if !chunk.isLastChunk then
      (⟨some (key, data)⟩, .ok none)
    else if chunk.totalSize ≠ data.length then
      (⟨some (key, data)⟩, .error "payload size mismatch")
    else if chunk.checksum ≠ crc32 data then
      (⟨some (key, data)⟩, .error "payload checksum mismatch")
    else
      (⟨none⟩, .ok (some (key, data)))

end ChunkAssembler

/-- An assembler with the outcomes of all pushes, and the chunks since the last payload: those
added to the data and those refused. -/
structure Transfer where
  assembler : ChunkAssembler
  outcomes : List (Except String (Option (String × List UInt8)))
  taken : List BulkSyncChunk
  refused : List BulkSyncChunk

def Transfer.push (transfer : Transfer) (chunk : BulkSyncChunk) : Transfer :=
  let (assembler, outcome) := transfer.assembler.push crc32 chunk
  let (taken, refused) : List BulkSyncChunk × List BulkSyncChunk :=
    match outcome with
    | .ok (some _) => ([], [])
    | .error "interleaved payload keys" | .error "invalid payload offset" |
        .error "empty intermediate chunk" => (transfer.taken, transfer.refused ++ [chunk])
    | _ => (transfer.taken ++ [chunk], transfer.refused)
  { assembler, outcomes := transfer.outcomes ++ [outcome], taken, refused }

def pushAll (chunks : List BulkSyncChunk) : Transfer :=
  chunks.foldl (Transfer.push crc32) ⟨⟨none⟩, [], [], []⟩

/-- Chunks of one key that lie one behind the other, from the start of the data to its end. -/
inductive Assembles (key : String) : List BulkSyncChunk → List UInt8 → Prop where
  | nil : Assembles key [] []
  | concat {chunks : List BulkSyncChunk} {data : List UInt8} {chunk : BulkSyncChunk} :
      Assembles key chunks data → chunk.key = key → chunk.offset = data.length →
      Assembles key (chunks ++ [chunk]) (data ++ chunk.data)

/-! ## Anything that is pushed -/

variable {crc32} {key : String} {data : List UInt8} {transfer : Transfer}

def Transfer.Holds (transfer : Transfer) : Prop :=
  ∀ key, Assembles (transfer.assembler.current.getD (key, [])).1 transfer.taken
    (transfer.assembler.current.getD (key, [])).2

theorem Transfer.Holds.push (holds : transfer.Holds) (chunk : BulkSyncChunk) :
    (transfer.push crc32 chunk).Holds ∧
    ∀ key data, (transfer.assembler.push crc32 chunk).2 = .ok (some (key, data)) →
      Assembles key (transfer.taken ++ [chunk]) data ∧
      chunk.isLastChunk = true ∧ chunk.totalSize = data.length ∧ chunk.checksum = crc32 data := by
  have before := holds chunk.key
  unfold Transfer.push ChunkAssembler.push
  generalize transfer.assembler.current.getD (chunk.key, []) = current at before ⊢
  rcases current with ⟨key, data⟩
  simp only
  split
  · exact ⟨fun _ => before, nofun⟩
  · split
    · exact ⟨fun _ => before, nofun⟩
    · split
      · exact ⟨fun _ => before, nofun⟩
      · rename_i sameKey offset _
        have added := before.concat (not_not.mp sameKey).symm (not_not.mp offset)
        split
        · exact ⟨fun _ => added, nofun⟩
        · split
          · exact ⟨fun _ => added, nofun⟩
          · split
            · exact ⟨fun _ => added, nofun⟩
            · constructor
              · exact fun _ => .nil
              · rintro _ _ ⟨⟩
                simp_all

theorem holds_pushAll (chunks : List BulkSyncChunk) : (pushAll crc32 chunks).Holds := by
  apply List.foldlRecOn chunks
  · exact fun _ => .nil
  · intro transfer holds chunk _
    exact (holds.push chunk).1

/-! ## The chunks of one payload -/

theorem push_chunkAt_last {assembler : ChunkAssembler} {offset : Nat}
    (holds : assembler.current.getD (key, []) = (key, data.take offset))
    (inside : offset ≤ data.length) (last : data.length ≤ offset + chunkSize) :
    assembler.push crc32 (chunkAt crc32 key data offset) = (⟨none⟩, .ok (some (key, data))) := by
  have stop : min (offset + chunkSize) data.length = data.length := by omega
  have rest : (data.drop offset).take (data.length - offset) = data.drop offset :=
    List.take_of_length_le (by simp)
  simp [ChunkAssembler.push, chunkAt, holds, stop, inside, rest]

theorem push_chunkAt_next {assembler : ChunkAssembler} {offset : Nat}
    (holds : assembler.current.getD (key, []) = (key, data.take offset))
    (more : offset + chunkSize < data.length) :
    assembler.push crc32 (chunkAt crc32 key data offset) =
      (⟨some (key, data.take (offset + chunkSize))⟩, .ok none) := by
  have stop : min (offset + chunkSize) data.length = offset + chunkSize := by omega
  have positive : 0 < chunkSize := by decide
  have inside : offset < data.length := by omega
  simp [ChunkAssembler.push, chunkAt, holds, stop, inside, inside.le, List.take_add, more.ne,
    positive.ne']

theorem push_chunks (key : String) (data : List UInt8) (count offset : Nat) (transfer : Transfer)
    (holds : transfer.assembler.current.getD (key, []) = (key, data.take offset))
    (inside : offset + count * chunkSize < max data.length 1)
    (last : data.length ≤ offset + (count + 1) * chunkSize) :
    let after := ((List.range' offset (count + 1) chunkSize).map (chunkAt crc32 key data)).foldl
      (Transfer.push crc32) transfer
    after.assembler.current = none ∧ after.outcomes =
      transfer.outcomes ++ (List.replicate count (.ok none) ++ [.ok (some (key, data))]) := by
  induction count generalizing transfer offset with
  | zero => simp [Transfer.push, push_chunkAt_last holds (by omega) (by omega)]
  | succ count induction =>
    rw [Nat.succ_mul] at inside last
    have more : offset + chunkSize < data.length := by
      have positive : 0 < chunkSize := by decide
      omega
    have pushed : transfer.assembler.push crc32 _ = _ := push_chunkAt_next holds more
    rw [List.range'_succ, List.map_cons, List.foldl_cons]
    have rest := induction (offset + chunkSize)
      (transfer.push crc32 (chunkAt crc32 key data offset)) (by simp [Transfer.push, pushed])
      (by omega) (by omega)
    simpa [Transfer.push, pushed, List.replicate_succ] using rest

/-- A payload comes out at the last of its chunks. Whatever is pushed, a payload that comes out
is made of the chunks of its key that were taken since the last one came out. -/
theorem payload_of_chunks (crc32 : List UInt8 → UInt32) :
    (∀ key data, (pushAll crc32 (chunks crc32 key data)).assembler.current = none ∧
      (pushAll crc32 (chunks crc32 key data)).outcomes =
        List.replicate ((chunks crc32 key data).length - 1) (.ok none) ++
          [.ok (some (key, data))]) ∧
    ∀ pushed chunk key data,
      ((pushAll crc32 pushed).assembler.push crc32 chunk).2 = .ok (some (key, data)) →
        Assembles key ((pushAll crc32 pushed).taken ++ [chunk]) data ∧
        chunk.isLastChunk = true ∧ chunk.totalSize = data.length ∧ chunk.checksum = crc32 data := by
  constructor
  · intro key data
    have whole := Nat.div_mul_le_self (max data.length 1 - 1) chunkSize
    have rest := Nat.lt_div_mul_add (a := max data.length 1 - 1) (show 0 < chunkSize by decide)
    rw [chunks, List.length_map, List.length_range']
    apply push_chunks key data _ 0 ⟨⟨none⟩, [], [], []⟩ rfl
    · omega
    · rw [Nat.succ_mul]
      omega
  · intro pushed chunk
    exact ((holds_pushAll pushed).push chunk).2

/-- A chunk that repeats the one before is refused, and the payload is completed without it. -/
theorem repeated_chunk_is_skipped : ∃ first second data, ∀ crc32,
    ((pushAll crc32 [first, first]).assembler.push crc32
        ⟨first.key, second, 1, true, 2, crc32 data⟩).2 = .ok (some (first.key, data)) ∧
      data ≠ first.data ++ first.data ++ second := by
  refine ⟨⟨"key", [1], 0, false, 0, 0⟩, [2], [1, 2], ?_⟩
  intro crc32
  simp [pushAll, Transfer.push, ChunkAssembler.push]

end YedMQ.Raft
