import SyncRGB.ByteCodec.Bounds
import SyncRGB.Server.Dispatch

/-! The receive loops of `ListenThreadFunction`, which server and client share.
The transport hands over the bytes of a finite stream in pieces of its own
choosing; the listener cuts them into packets and has each one handled. -/
namespace SyncRGB
open ByteCodec

/-- `openrgb_sdk_magic`. -/
def sdkMagic : Bytes := [79, 82, 71, 66]

/-- The bytes of a header behind the magic. -/
def NetPacket.header (p : NetPacket) : Bytes := u32 p.pktDevIdx ++ u32 p.pktId ++ u32 p.pktSize

/-- A well-formed packet on the wire. -/
def NetPacket.raw (p : NetPacket) : Bytes := sdkMagic ++ p.header ++ p.data

/-- A dispatched packet: the four bytes taken for the magic, the packet, and all bytes
received up to its dispatch. -/
structure Received where
  magic : Bytes
  packet : NetPacket
  arrived : Bytes

def Received.raw (r : Received) : Bytes := r.magic ++ r.packet.header ++ r.packet.data

/-- The bytes still to come, those received, and the number of `recv` calls so far. -/
structure Wire where
  stream : Bytes
  arrived : Bytes
  calls : Nat

def Wire.start (stream : Bytes) : Wire := ⟨stream, [], 0⟩

/-- What one `recv` of at most `len` bytes can return. -/
abbrev Piece (len : Nat) := { bs : Bytes // 1 ≤ bs.length ∧ bs.length ≤ len }

section Receive
variable (sched : Nat → Nat)

/-- The number of bytes the transport hands over in this call. -/
def pieceLength (w : Wire) (len : Nat) : Nat := min (max 1 (sched w.calls)) (min len w.stream.length)

theorem pieceLength_bounds {w : Wire} {len : Nat} (open_ : w.stream ≠ []) (positive : len ≠ 0) :
    1 ≤ (w.stream.take (pieceLength sched w len)).length ∧
      (w.stream.take (pieceLength sched w len)).length ≤ len := by
  have more := List.length_pos_of_ne_nil open_
  rw [List.length_take]
  unfold pieceLength
  omega

/-- `recv_select`: nothing at the end of the stream, and an error for a length that is negative as
the `int` it is passed as. -/
def recvSelect (w : Wire) (len : Nat) : Option (Piece len × Wire) :=
  if h : w.stream ≠ [] ∧ len ≠ 0 ∧ len < 2 ^ 31 then
    let n := pieceLength sched w len
    some (⟨w.stream.take n, pieceLength_bounds sched h.1 h.2.1⟩,
      ⟨w.stream.drop n, w.arrived ++ w.stream.take n, w.calls + 1⟩)
  else none

/-- The four magic bytes, one by one. A byte that differs from the expected one is only logged:
either way the loop goes on with the next position. -/
def recvMagic : (expected : Bytes) → Wire → Option (Bytes × Wire)
  | [], w => some ([], w)
  | _ :: expected, w =>
      match recvSelect sched w 1 with
      | none => none
      | some (b, w') => (recvMagic expected w').map fun r => (b.1 ++ r.1, r.2)

/-- Receive until `n` bytes are there. -/
def recvAll (n : Nat) (w : Wire) : Option ({ bs : Bytes // bs.length = n } × Wire) :=
  if h : n = 0 then some (⟨[], h.symm⟩, w)
  else
    match recvSelect sched w n with
    | none => none
    | some (b, w') =>
        (recvAll (n - b.1.length) w').map fun r =>
          (⟨b.1 ++ r.1.1, by have := r.1.2; have := b.2; rw [List.length_append]; omega⟩, r.2)
termination_by n
decreasing_by have := b.2; omega

/-- Magic, rest of the header and data of one packet. -/
def nextPacket (w : Wire) : Option (Received × Wire) := do
  let (magic, w) ← recvMagic sched sdkMagic w
  let (header, w) ← recvAll sched 12 w
  let (data, w) ← recvAll sched (field32 header.1 8).toNat w
  let packet : NetPacket :=
    { pktDevIdx := field32 header.1 0
      pktId := field32 header.1 4
      data := data.1
      sized := by rw [data.2]; exact (field32 header.1 8).toNat_lt }
  return (⟨magic, packet, w.arrived⟩, w)

end Receive

/-! ### The packets of a stream -/

/-- The first packet of a stream, whatever its first four bytes are. -/
def parse (arrived stream : Bytes) : Option (Received × Bytes) :=
  let size := (field32 stream 12).toNat
  if size < 2 ^ 31 ∧ 16 + size ≤ stream.length then
    some (⟨stream.take 4,
      { pktDevIdx := field32 stream 4
        pktId := field32 stream 8
        data := (stream.drop 16).take size
        sized := (List.length_take_le _ _).trans_lt (field32 stream 12).toNat_lt },
      arrived ++ stream.take (16 + size)⟩, stream.drop (16 + size))
  else none

variable {sched : Nat → Nat}

/-- One `recv` takes a nonempty front of what is still to come. -/
theorem recvSelect_of_more (sched : Nat → Nat) {n : Nat} {w : Wire} (more : w.stream ≠ [])
    (positive : n ≠ 0) (counted : n < 2 ^ 31) :
    ∃ k piece, 1 ≤ k ∧ k ≤ n ∧ k ≤ w.stream.length ∧ recvSelect sched w n =
      some (⟨w.stream.take k, piece⟩,
        ⟨w.stream.drop k, w.arrived ++ w.stream.take k, w.calls + 1⟩) := by
  have left := List.length_pos_of_ne_nil more
  refine ⟨pieceLength sched w n, pieceLength_bounds sched more positive, ?_, ?_, ?_,
    dif_pos ⟨more, positive, counted⟩⟩ <;> unfold pieceLength <;> omega

theorem recvAll_of_room {n : Nat} {w : Wire} (counted : n < 2 ^ 31) (room : n ≤ w.stream.length) :
    ∃ length calls, recvAll sched n w =
      some (⟨w.stream.take n, length⟩, ⟨w.stream.drop n, w.arrived ++ w.stream.take n, calls⟩) := by
  induction n using Nat.strong_induction_on generalizing w with
  | _ n ih =>
    rw [recvAll]
    by_cases zero : n = 0
    · subst zero
      exact ⟨rfl, w.calls, by simp⟩
    · have more : w.stream ≠ [] := fun h => by
        rw [h, List.length_nil] at room
        omega
      obtain ⟨k, piece, k_pos, k_le, k_in, received⟩ :=
        recvSelect_of_more sched more zero counted
      have cut : (w.stream.take k).length = k := List.length_take_of_le k_in
      obtain ⟨_, calls, rest⟩ := @ih (n - (w.stream.take k).length) (by omega)
        ⟨w.stream.drop k, w.arrived ++ w.stream.take k, w.calls + 1⟩ (by omega)
        (by rw [List.length_drop]; omega)
      have split : n = k + (n - (w.stream.take k).length) := by omega
      have front : w.stream.take k ++ (w.stream.drop k).take (n - (w.stream.take k).length) =
          w.stream.take n := by
        conv_rhs => rw [split, List.take_add]
      have back : (w.stream.drop k).drop (n - (w.stream.take k).length) = w.stream.drop n := by
        conv_rhs => rw [split, ← List.drop_drop]
      refine ⟨List.length_take_of_le room, calls, ?_⟩
      rw [dif_neg zero, received]
      simp only [rest, Option.map_some, front, back, List.append_assoc]

theorem recvAll_of_short {n : Nat} {w : Wire} (short : ¬ (n < 2 ^ 31 ∧ n ≤ w.stream.length)) :
    recvAll sched n w = none := by
  induction n using Nat.strong_induction_on generalizing w with
  | _ n ih =>
    have positive : n ≠ 0 := by omega
    rw [recvAll, dif_neg positive]
    by_cases more : w.stream ≠ [] ∧ n < 2 ^ 31
    · obtain ⟨k, piece, k_pos, k_le, k_in, received⟩ :=
        recvSelect_of_more sched more.1 positive more.2
      have cut : (w.stream.take k).length = k := List.length_take_of_le k_in
      rw [received]
      simp only [Option.map_eq_none_iff]
      refine ih _ (by omega) ?_
      rw [List.length_drop]
      omega
    · rw [recvSelect, dif_neg fun h => more ⟨h.1, h.2.2⟩]

theorem recvMagic_of_room {expected : Bytes} {w : Wire} (room : expected.length ≤ w.stream.length) :
    ∃ calls, recvMagic sched expected w =
      some (w.stream.take expected.length, ⟨w.stream.drop expected.length,
        w.arrived ++ w.stream.take expected.length, calls⟩) := by
  induction expected generalizing w with
  | nil => exact ⟨w.calls, by simp [recvMagic]⟩
  | cons m expected ih =>
      rw [List.length_cons] at room
      have more : w.stream ≠ [] := fun h => by
        rw [h, List.length_nil] at room
        omega
      obtain ⟨k, piece, k_pos, k_le, k_in, received⟩ :=
        recvSelect_of_more sched more Nat.one_ne_zero (by decide)
      obtain rfl : k = 1 := by omega
      obtain ⟨calls, rest⟩ := @ih ⟨w.stream.drop 1, w.arrived ++ w.stream.take 1, w.calls + 1⟩
        (by rw [List.length_drop]; omega)
      refine ⟨calls, ?_⟩
      rw [recvMagic, received]
      simp only [rest, Option.map_some, List.length_cons, Nat.add_comm expected.length 1,
        List.take_add, List.drop_drop, List.append_assoc]

theorem recvMagic_of_short {expected : Bytes} {w : Wire} (short : w.stream.length < expected.length) :
    recvMagic sched expected w = none := by
  induction expected generalizing w with
  | nil => exact absurd short (Nat.not_lt_zero _)
  | cons m expected ih =>
      rw [List.length_cons] at short
      rw [recvMagic]
      by_cases more : w.stream = []
      · rw [recvSelect, dif_neg fun h => h.1 more]
      · obtain ⟨k, piece, k_pos, k_le, k_in, received⟩ :=
          recvSelect_of_more sched more Nat.one_ne_zero (by decide)
        obtain rfl : k = 1 := by omega
        rw [received]
        simp only [Option.map_eq_none_iff]
        exact ih (by rw [List.length_drop]; omega)

theorem field32_window (bs : Bytes) {n p : Nat} (q : Nat) (inside : p + 4 ≤ n) :
    field32 ((bs.drop q).take n) p = field32 bs (q + p) := by
  unfold field32
  rw [List.drop_take, List.take_take, List.drop_drop, Nat.min_eq_left (by omega)]

theorem parse_eq_some {arrived stream rest : Bytes} {r : Received}
    (h : parse arrived stream = some (r, rest)) :
    (field32 stream 12).toNat < 2 ^ 31 ∧ 16 + (field32 stream 12).toNat ≤ stream.length := by
  by_contra incomplete
  rw [parse] at h
  simp only [incomplete, if_false, reduceCtorEq] at h

/-- However the bytes arrive, the next packet is the one that stands in the stream. -/
theorem nextPacket_of_parse (sched : Nat → Nat) {w : Wire} {r : Received} {rest : Bytes}
    (h : parse w.arrived w.stream = some (r, rest)) :
    ∃ calls, nextPacket sched w = some (r, ⟨rest, r.arrived, calls⟩) := by
  have complete := parse_eq_some h
  rw [parse] at h
  simp only [complete, and_self, if_true, Option.some.injEq, Prod.mk.injEq] at h
  obtain ⟨rfl, rfl⟩ := h
  have four : sdkMagic.length = 4 := rfl
  obtain ⟨calls₁, magic⟩ := @recvMagic_of_room sched sdkMagic w (by omega)
  obtain ⟨_, calls₂, header⟩ := @recvAll_of_room sched 12
    ⟨w.stream.drop 4, w.arrived ++ w.stream.take 4, calls₁⟩ (by decide)
    (by rw [List.length_drop]; omega)
  have devIdx : field32 ((w.stream.drop 4).take 12) 0 = field32 w.stream 4 :=
    field32_window w.stream 4 (by decide)
  have id : field32 ((w.stream.drop 4).take 12) 4 = field32 w.stream 8 :=
    field32_window w.stream 4 (by decide)
  have size : field32 ((w.stream.drop 4).take 12) 8 = field32 w.stream 12 :=
    field32_window w.stream 4 (by decide)
  obtain ⟨_, calls₃, data⟩ := @recvAll_of_room sched
    (field32 ((w.stream.drop 4).take 12) 8).toNat
    ⟨(w.stream.drop 4).drop 12, w.arrived ++ w.stream.take 4 ++ (w.stream.drop 4).take 12, calls₂⟩
    (by rw [size]; exact complete.1)
    (by rw [size, List.length_drop, List.length_drop]; omega)
  refine ⟨calls₃, ?_⟩
  rw [nextPacket, magic]
  simp only [four, Option.bind_eq_bind, Option.bind_some, header, data]
  have whole : w.stream.take 4 ++ ((w.stream.drop 4).take 12 ++
      (w.stream.drop (4 + 12)).take (field32 w.stream 12).toNat) =
        w.stream.take (16 + (field32 w.stream 12).toNat) := by
    rw [← List.append_assoc, ← List.take_add, ← List.take_add]
  simp only [size, devIdx, id, List.drop_drop, List.append_assoc, whole]
  rfl

theorem nextPacket_of_incomplete (sched : Nat → Nat) {w : Wire}
    (h : parse w.arrived w.stream = none) : nextPacket sched w = none := by
  have incomplete : ¬ ((field32 w.stream 12).toNat < 2 ^ 31 ∧
      16 + (field32 w.stream 12).toNat ≤ w.stream.length) := fun complete => by
    rw [parse] at h
    simp only [complete, and_self, if_true, reduceCtorEq] at h
  have four : sdkMagic.length = 4 := rfl
  rw [nextPacket]
  by_cases magicRoom : 4 ≤ w.stream.length
  · obtain ⟨calls₁, magic⟩ := @recvMagic_of_room sched sdkMagic w (by omega)
    rw [magic]
    simp only [four, Option.bind_eq_bind, Option.bind_some]
    by_cases headerRoom : 16 ≤ w.stream.length
    · obtain ⟨_, calls₂, header⟩ := @recvAll_of_room sched 12
        ⟨w.stream.drop 4, w.arrived ++ w.stream.take 4, calls₁⟩ (by decide)
        (by rw [List.length_drop]; omega)
      have size : field32 ((w.stream.drop 4).take 12) 8 = field32 w.stream 12 :=
        field32_window w.stream 4 (by decide)
      have data := @recvAll_of_short sched (field32 ((w.stream.drop 4).take 12) 8).toNat
        ⟨(w.stream.drop 4).drop 12, w.arrived ++ w.stream.take 4 ++ (w.stream.drop 4).take 12,
          calls₂⟩ (by rw [size, List.length_drop, List.length_drop]; omega)
      simp only [header, Option.bind_some, data, Option.bind_none]
    · have header := @recvAll_of_short sched 12
        ⟨w.stream.drop 4, w.arrived ++ w.stream.take 4, calls₁⟩ (by rw [List.length_drop]; omega)
      simp only [header, Option.bind_none]
  · rw [recvMagic_of_short (by omega)]
    rfl

/-! ### The listener -/

theorem nextPacket_shorter {w w' : Wire} {r : Received} (h : nextPacket sched w = some (r, w')) :
    w'.stream.length < w.stream.length := by
  cases parsed : parse w.arrived w.stream with
  | none => rw [nextPacket_of_incomplete sched parsed] at h; cases h
  | some result =>
      obtain ⟨r', rest⟩ := result
      obtain ⟨calls, next⟩ := nextPacket_of_parse sched parsed
      have complete := parse_eq_some parsed
      rw [parse] at parsed
      simp only [complete, and_self, if_true, Option.some.injEq, Prod.mk.injEq] at parsed
      rw [next] at h
      obtain ⟨-, rfl⟩ := Prod.mk.inj (Option.some.inj h)
      rw [← parsed.2, List.length_drop]
      omega

section Listen
variable {σ : Type} (handle : σ → NetPacket → Option σ)

/-- `ListenThreadFunction`: the packets it dispatches, in order. The handler is the `switch` of the
server or of the client; it closes the listener by answering `none`. -/
def listen (sched : Nat → Nat) (s : σ) (w : Wire) : List Received :=
  match _next : nextPacket sched w with
  | none => []
  | some (r, w') =>
      r :: match handle s r.packet with
        | none => []
        | some s' => listen sched s' w'
termination_by w.stream.length
decreasing_by exact nextPacket_shorter _next

end Listen

/-- The server's listener. -/
def NetworkServer.listener (services : Services) (s : NetworkServer) (p : NetPacket) :
    Option NetworkServer :=
  match s.dispatch services p with
  | .done s' => some s'
  | _ => none

end SyncRGB
