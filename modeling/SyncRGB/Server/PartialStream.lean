import SyncRGB.Server.Framing

/-! What the listener makes of the front of a stream of packets that has arrived so far. -/
namespace SyncRGB
open ByteCodec

section
variable {σ : Type} {handle : σ → NetPacket → Option σ} {sched : Nat → Nat}

theorem raw_length (p : NetPacket) : p.raw.length = 16 + p.data.length := by
  rw [NetPacket.raw, NetPacket.header]
  simp only [List.length_append, u32_length]
  rfl

theorem field32_raw_size (p : NetPacket) (rest : Bytes) : field32 (p.raw ++ rest) 12 = p.pktSize := by
  have shape : p.raw ++ rest =
      (sdkMagic ++ u32 p.pktDevIdx ++ u32 p.pktId) ++ (u32 p.pktSize ++ (p.data ++ rest)) := by
    simp only [NetPacket.raw, NetPacket.header, List.append_assoc]
  have twelve : (sdkMagic ++ u32 p.pktDevIdx ++ u32 p.pktId).length = 12 := by
    simp only [List.length_append, u32_length]
    rfl
  rw [shape, field32, ← twelve, List.drop_left, List.take_left' (u32_length _), u32Value_u32]

/-- A packet that has not arrived in full is not there at all. -/
theorem parse_of_part {p : NetPacket} {rest front arrived : Bytes} (part : front <+: p.raw ++ rest)
    (short : front.length < p.raw.length) : parse arrived front = none := by
  apply parse_of_rest
  rintro ⟨_, room⟩
  have headed : 16 ≤ front.length := by omega
  have same : front = (p.raw ++ rest).take front.length := List.prefix_iff_eq_take.mp part
  have size : field32 front 12 = p.pktSize := by
    have window := field32_window (p.raw ++ rest) 0 (show 12 + 4 ≤ front.length from headed)
    rw [List.drop_zero, ← same, Nat.zero_add, field32_raw_size] at window
    exact window
  rw [size, NetPacket.pktSize, UInt32.toNat_ofNat_of_lt' p.sized] at room
  rw [raw_length] at short
  omega

/-- The handler goes on through all packets. -/
def HandlesAll (handle : σ → NetPacket → Option σ) (s : σ) (ps : List NetPacket) (t : σ) : Prop :=
  ps.foldlM handle s = some t

theorem HandlesAll.append {s t u : σ} {ps qs : List NetPacket} (first : HandlesAll handle s ps t)
    (second : HandlesAll handle t qs u) : HandlesAll handle s (ps ++ qs) u := by
  rw [HandlesAll, List.foldlM_append, first]
  exact second

/-- The packets that have arrived are dispatched, in order, and the next one is not there yet. -/
theorem listen_part (sched : Nat → Nat) {ps : List NetPacket} {s t : σ} (handles : HandlesAll handle s ps t)
    (counted : ∀ p ∈ ps, p.data.length < 2 ^ 31) {front : Bytes} (part : front <+: ps.flatMap NetPacket.raw)
    (arrived : Bytes) (calls : Nat) :
    ∃ done rest, ps = done ++ rest ∧
      (listen handle sched s ⟨front, arrived, calls⟩).map Received.packet = done ∧
      (front = ps.flatMap NetPacket.raw → rest = []) := by
  induction ps generalizing s front arrived calls with
  | nil =>
      obtain rfl : front = [] := List.prefix_nil.mp part
      refine ⟨[], [], rfl, ?_, fun _ => rfl⟩
      rw [listen_of_incomplete handle sched s (parse_of_rest fun complete => ?_), List.map_nil]
      exact absurd complete.2 (by simp)
  | cons p ps ih =>
      rw [HandlesAll, List.foldlM_cons] at handles
      obtain ⟨next, handled, later⟩ := Option.bind_eq_some_iff.mp handles
      obtain ⟨here, others⟩ := List.forall_mem_cons.mp counted
      rw [List.flatMap_cons] at part ⊢
      by_cases short : front.length < p.raw.length
      · refine ⟨[], p :: ps, rfl, ?_, fun whole => ?_⟩
        · rw [listen_of_incomplete handle sched s (parse_of_part part short), List.map_nil]
        · rw [whole, List.length_append] at short
          omega
      · obtain ⟨more, rfl⟩ : p.raw <+: front :=
          List.prefix_of_prefix_length_le (List.prefix_append _ _) part (Nat.not_lt.mp short)
        obtain ⟨calls', run⟩ := @listen_of_raw σ handle sched s p here arrived more calls
        have part' : more <+: ps.flatMap NetPacket.raw := (List.prefix_append_right_inj _).mp part
        obtain ⟨done, rest, split, dispatched, whole⟩ := ih later others part' (arrived ++ p.raw) calls'
        refine ⟨p :: done, rest, congrArg (p :: ·) split, ?_, fun all => whole (List.append_cancel_left all)⟩
        rw [run, handled, List.map_cons, dispatched]

end
end SyncRGB
