import SyncRGB.Server.Listener

/-! What the listener dispatches: the packets that stand in the stream one behind
the other, however the transport splits it, and whatever their magic is. -/
namespace SyncRGB
open ByteCodec

theorem le_leValue (bs : Bytes) : le bs.length (leValue bs) = bs := by
  induction bs with
  | nil => rfl
  | cons b bs ih =>
      have low : UInt8.ofNat (b.toNat + 256 * leValue bs) = b := by
        rw [← UInt8.toNat_inj, UInt8.toNat_ofNat']
        have small := b.toNat_lt
        omega
      have high : (b.toNat + 256 * leValue bs) / 256 = leValue bs := by
        have small := b.toNat_lt
        omega
      rw [leValue_cons, List.length_cons, le, low, high, ih]

theorem u32_field32 {bs : Bytes} {p : Nat} (inside : p + 4 ≤ bs.length) :
    u32 (field32 bs p) = (bs.drop p).take 4 := by
  have four : ((bs.drop p).take 4).length = 4 := by
    rw [List.length_take, List.length_drop]
    omega
  have bound := leValue_lt ((bs.drop p).take 4)
  rw [four] at bound
  have whole := le_leValue ((bs.drop p).take 4)
  rw [four] at whole
  rw [u32, field32, u32Value, UInt32.toNat_ofNat_of_lt' bound, whole]

/-- The first packet is a front of the stream, and it had arrived when it was dispatched. -/
theorem parse_split {arrived stream rest : Bytes} {r : Received}
    (h : parse arrived stream = some (r, rest)) :
    stream = r.raw ++ rest ∧ r.arrived = arrived ++ r.raw ∧ r.magic.length = 4 ∧
      r.packet.data.length < 2 ^ 31 := by
  obtain ⟨counted, room⟩ := parse_eq_some h
  rw [parse] at h
  simp only [counted, room, and_self, if_true, Option.some.injEq, Prod.mk.injEq] at h
  obtain ⟨rfl, rfl⟩ := h
  have length : ((stream.drop 16).take (field32 stream 12).toNat).length =
      (field32 stream 12).toNat := by
    rw [List.length_take, List.length_drop]
    omega
  have size : UInt32.ofNat ((stream.drop 16).take (field32 stream 12).toNat).length =
      field32 stream 12 := by
    rw [length, UInt32.ofNat_toNat]
  have front : stream.take 4 ++ (u32 (field32 stream 4) ++ u32 (field32 stream 8) ++
      u32 (field32 stream 12)) ++ (stream.drop 16).take (field32 stream 12).toNat =
        stream.take (16 + (field32 stream 12).toNat) := by
    rw [u32_field32 (by omega), u32_field32 (by omega), u32_field32 (by omega), List.take_add,
      show (16 : Nat) = 4 + (4 + 4 + 4) from rfl, List.take_add, List.take_add, List.take_add,
      List.drop_drop, List.drop_drop]
  simp only [Received.raw, NetPacket.header, NetPacket.pktSize, size, front]
  refine ⟨(List.take_append_drop _ _).symm, trivial, ?_, ?_⟩
  · rw [List.length_take]
    omega
  · rw [length]
    exact counted

/-- A well-formed packet at the front of the stream is the first packet. -/
theorem parse_raw (arrived rest : Bytes) {p : NetPacket} (counted : p.data.length < 2 ^ 31) :
    parse arrived (p.raw ++ rest) = some (⟨sdkMagic, p, arrived ++ p.raw⟩, rest) := by
  have size : p.pktSize.toNat = p.data.length := UInt32.toNat_ofNat_of_lt' p.sized
  have word (pre post : Bytes) (x : UInt32) : field32 (pre ++ (u32 x ++ post)) pre.length = x := by
    rw [field32, List.drop_left, List.take_left' (u32_length x), u32Value_u32]
  have shape : p.raw ++ rest =
      sdkMagic ++ (u32 p.pktDevIdx ++ (u32 p.pktId ++ (u32 p.pktSize ++ (p.data ++ rest)))) := by
    simp only [NetPacket.raw, NetPacket.header, List.append_assoc]
  have devIdx : field32 (p.raw ++ rest) 4 = p.pktDevIdx := by
    rw [shape]
    exact word sdkMagic _ _
  have id : field32 (p.raw ++ rest) 8 = p.pktId := by
    rw [shape, ← List.append_assoc]
    exact word (sdkMagic ++ u32 p.pktDevIdx) _ _
  have pktSize : field32 (p.raw ++ rest) 12 = p.pktSize := by
    rw [shape, ← List.append_assoc, ← List.append_assoc]
    exact word (sdkMagic ++ u32 p.pktDevIdx ++ u32 p.pktId) _ _
  have headed : (sdkMagic ++ p.header).length = 16 := by
    simp only [NetPacket.header, List.length_append, u32_length]
    rfl
  have total : p.raw.length = 16 + p.data.length := by
    rw [NetPacket.raw, List.length_append, headed]
  have data : (p.raw ++ rest).drop 16 = p.data ++ rest := by
    rw [NetPacket.raw, List.append_assoc, ← headed, List.drop_left]
  have magic : (p.raw ++ rest).take 4 = sdkMagic := by
    rw [shape]
    rfl
  have front : (p.raw ++ rest).take (16 + p.data.length) = p.raw := by rw [← total, List.take_left]
  have back : (p.raw ++ rest).drop (16 + p.data.length) = rest := by rw [← total, List.drop_left]
  have room : 16 + p.data.length ≤ (p.raw ++ rest).length := by
    rw [List.length_append, total]
    omega
  rw [parse]
  simp only [pktSize, size, devIdx, id, data, List.take_left, magic, front, back]
  exact if_pos ⟨counted, room⟩

section Listen
variable {σ : Type} (handle : σ → NetPacket → Option σ) (sched : Nat → Nat) (s : σ) {w : Wire}

theorem listen_of_parse {r : Received} {rest : Bytes}
    (h : parse w.arrived w.stream = some (r, rest)) :
    ∃ calls, listen handle sched s w = r :: match handle s r.packet with
      | none => []
      | some s' => listen handle sched s' ⟨rest, r.arrived, calls⟩ := by
  obtain ⟨calls, next⟩ := nextPacket_of_parse sched h
  refine ⟨calls, ?_⟩
  rw [listen]
  split
  · rename_i stop
    rw [next] at stop
    cases stop
  · rename_i r' w' more
    rw [next] at more
    obtain ⟨rfl, rfl⟩ := Prod.mk.inj (Option.some.inj more)
    rfl

theorem listen_of_incomplete (h : parse w.arrived w.stream = none) :
    listen handle sched s w = [] := by
  rw [listen]
  split
  · rfl
  · rename_i r' w' more
    rw [nextPacket_of_incomplete sched h] at more
    cases more

/-! ### Chunking -/

variable {handle sched s}

theorem listen_congr {w₁ w₂ : Wire} (stream : w₁.stream = w₂.stream)
    (arrived : w₁.arrived = w₂.arrived) (sched₁ sched₂ : Nat → Nat) :
    listen handle sched₁ s w₁ = listen handle sched₂ s w₂ := by
  induction len : w₁.stream.length using Nat.strong_induction_on generalizing s w₁ w₂ with
  | _ n ih =>
    cases parsed : parse w₁.arrived w₁.stream with
    | none =>
        have parsed₂ := parsed
        rw [stream, arrived] at parsed₂
        rw [listen_of_incomplete handle _ s parsed, listen_of_incomplete handle _ s parsed₂]
    | some result =>
        obtain ⟨r, rest⟩ := result
        have parsed₂ := parsed
        rw [stream, arrived] at parsed₂
        obtain ⟨calls₁, run₁⟩ := listen_of_parse handle sched₁ s parsed
        obtain ⟨calls₂, run₂⟩ := listen_of_parse handle sched₂ s parsed₂
        have shorter : rest.length < n := by
          have split := congrArg List.length (parse_split parsed).1
          have head := (parse_split parsed).2.2.1
          simp only [Received.raw, List.length_append] at split
          omega
        rw [run₁, run₂]
        cases handle s r.packet with
        | none => rfl
        | some s' => exact congrArg (r :: ·) (ih _ shorter rfl rfl rfl)

/-- The dispatched packets tile a front of the stream, and each had arrived in full. -/
theorem listen_tiles : (listen handle sched s w).flatMap Received.raw <+: w.stream ∧
    ∀ r ∈ listen handle sched s w, r.raw <:+ r.arrived ∧
      ∃ front, r.arrived = w.arrived ++ front ∧ front <+: w.stream := by
  induction len : w.stream.length using Nat.strong_induction_on generalizing s w with
  | _ n ih =>
    cases parsed : parse w.arrived w.stream with
    | none =>
        rw [listen_of_incomplete handle _ s parsed]
        exact ⟨List.nil_prefix, fun r hr => absurd hr List.not_mem_nil⟩
    | some result =>
        obtain ⟨r, rest⟩ := result
        obtain ⟨calls, run⟩ := listen_of_parse handle sched s parsed
        obtain ⟨stream, arrived, head, -⟩ := parse_split parsed
        have shorter : rest.length < n := by
          have split := congrArg List.length stream
          simp only [Received.raw, List.length_append] at split
          omega
        have first : r.raw <:+ r.arrived ∧
            ∃ front, r.arrived = w.arrived ++ front ∧ front <+: w.stream :=
          ⟨⟨w.arrived, arrived.symm⟩, r.raw, arrived, ⟨rest, stream.symm⟩⟩
        rw [run]
        cases handle s r.packet with
        | none =>
            simp only [List.flatMap_cons, List.flatMap_nil, List.append_nil, List.forall_mem_singleton]
            exact ⟨⟨rest, stream.symm⟩, first⟩
        | some s' =>
            obtain ⟨tiles, each⟩ := @ih rest.length shorter s' ⟨rest, r.arrived, calls⟩ rfl
            rw [List.flatMap_cons, List.forall_mem_cons, stream]
            refine ⟨(List.prefix_append_right_inj _).mpr tiles, stream ▸ first, fun q hq => ?_⟩
            obtain ⟨whole, front, arrivedThen, inside⟩ := each q hq
            refine ⟨whole, r.raw ++ front, ?_, (List.prefix_append_right_inj _).mpr inside⟩
            rw [arrivedThen, arrived, List.append_assoc]

/-- Two ways to split a stream lead to the same packets in the same order; they stand in the stream
one behind the other, and each is dispatched only when its data has arrived. -/
theorem listen_chunking {σ : Type} (handle : σ → NetPacket → Option σ) (s : σ) (stream : Bytes)
    (sched₁ sched₂ : Nat → Nat) :
    listen handle sched₁ s (.start stream) = listen handle sched₂ s (.start stream) ∧
      (listen handle sched₁ s (.start stream)).flatMap Received.raw <+: stream ∧
      ∀ r ∈ listen handle sched₁ s (.start stream), r.arrived <+: stream ∧ r.raw <:+ r.arrived ∧
        r.packet.data.length = r.packet.pktSize.toNat := by
  obtain ⟨tiles, each⟩ := @listen_tiles σ handle sched₁ s (.start stream)
  refine ⟨listen_congr rfl rfl sched₁ sched₂, tiles, fun r hr => ?_⟩
  obtain ⟨whole, front, arrived, inside⟩ := each r hr
  rw [arrived]
  rw [arrived] at whole
  exact ⟨inside, whole, (UInt32.toNat_ofNat_of_lt' r.packet.sized).symm⟩

/-! ### Magic -/

/-- A sequence of well-formed packets, up to one that closes the listener or to a rest that ends
before the packet it announces. -/
inductive Framed (handle : σ → NetPacket → Option σ) : σ → Bytes → Prop
  | rest {s : σ} {stream : Bytes} :
      ¬ ((field32 stream 12).toNat < 2 ^ 31 ∧ 16 + (field32 stream 12).toNat ≤ stream.length) →
      Framed handle s stream
  | closing {s : σ} {p : NetPacket} {stream : Bytes} :
      p.data.length < 2 ^ 31 → handle s p = none → Framed handle s (p.raw ++ stream)
  | packet {s s' : σ} {p : NetPacket} {stream : Bytes} :
      p.data.length < 2 ^ 31 → handle s p = some s' → Framed handle s' stream →
      Framed handle s (p.raw ++ stream)

theorem parse_of_rest {arrived stream : Bytes}
    (short : ¬ ((field32 stream 12).toNat < 2 ^ 31 ∧
      16 + (field32 stream 12).toNat ≤ stream.length)) : parse arrived stream = none := by
  rw [parse]
  simp only [short, if_false]

theorem listen_of_raw {p : NetPacket} (counted : p.data.length < 2 ^ 31)
    (arrived rest : Bytes) (calls : Nat) :
    ∃ calls', listen handle sched s ⟨p.raw ++ rest, arrived, calls⟩ =
      ⟨sdkMagic, p, arrived ++ p.raw⟩ :: match handle s p with
        | none => []
        | some s' => listen handle sched s' ⟨rest, arrived ++ p.raw, calls'⟩ :=
  @listen_of_parse σ handle sched s ⟨p.raw ++ rest, arrived, calls⟩ _ _
    (parse_raw arrived rest counted)

theorem magic_of_framed (framed : Framed handle s w.stream) :
    ∀ r ∈ listen handle sched s w, r.magic = sdkMagic := by
  obtain ⟨stream, arrived, calls⟩ := w
  simp only at framed
  induction framed generalizing arrived calls with
  | @rest s stream short =>
      have incomplete : parse arrived stream = none := parse_of_rest short
      have run : listen handle sched s ⟨stream, arrived, calls⟩ = [] :=
        listen_of_incomplete handle sched s incomplete
      rw [run]
      intro r member
      exact absurd member List.not_mem_nil
  | closing counted stops =>
      obtain ⟨_, run⟩ := listen_of_raw counted arrived _ calls
      rw [run, stops]
      exact List.forall_mem_singleton.mpr rfl
  | packet counted goes _ ih =>
      obtain ⟨_, run⟩ := listen_of_raw counted arrived _ calls
      rw [run, goes]
      exact List.forall_mem_cons.mpr ⟨rfl, ih _ _⟩

theorem framed_of_magic (magic : ∀ r ∈ listen handle sched s w, r.magic = sdkMagic) :
    Framed handle s w.stream := by
  induction len : w.stream.length using Nat.strong_induction_on generalizing s w with
  | _ n ih =>
    cases parsed : parse w.arrived w.stream with
    | none =>
        refine .rest fun complete => ?_
        rw [parse] at parsed
        simp only [complete, and_self, if_true, reduceCtorEq] at parsed
    | some result =>
        obtain ⟨r, rest⟩ := result
        obtain ⟨calls, run⟩ := listen_of_parse handle sched s parsed
        obtain ⟨stream, -, -, counted⟩ := parse_split parsed
        rw [run, List.forall_mem_cons] at magic
        have raw : r.raw = r.packet.raw := by
          rw [Received.raw, magic.1, NetPacket.raw]
        rw [raw] at stream
        rw [stream]
        cases handled : handle s r.packet with
        | none => exact .closing counted handled
        | some s' =>
            simp only [handled] at magic
            have shorter : rest.length < n := by
              have split := congrArg List.length stream
              have head : 0 < r.packet.raw.length := Nat.succ_pos _
              rw [List.length_append] at split
              omega
            exact .packet counted handled (@ih rest.length shorter s' ⟨rest, r.arrived, calls⟩
              magic.2 rfl)

/-- The magic does not begin inside a garbage that does not contain it. -/
theorem take_four_garbage {garbage tail : Bytes} (clean : ¬ sdkMagic <:+: garbage)
    (h : (garbage ++ (sdkMagic ++ tail)).take 4 = sdkMagic) : garbage = [] := by
  match garbage with
  | [] => rfl
  | [a] => exact absurd h (by simp [sdkMagic])
  | [a, b] => exact absurd h (by simp [sdkMagic])
  | [a, b, c] => exact absurd h (by simp [sdkMagic])
  | a :: b :: c :: d :: more =>
      refine absurd ?_ clean
      have head : [a, b, c, d] = sdkMagic := by simpa using h
      exact ⟨[], more, by rw [← head]; rfl⟩

/-- Every dispatched packet began with the magic just when the stream is made of well-formed
packets, and a packet behind garbage is dispatched first just when there is no garbage. -/
theorem framing_iff {σ : Type} (handle : σ → NetPacket → Option σ) (s : σ) (sched : Nat → Nat) :
    (∀ stream, (∀ r ∈ listen handle sched s (.start stream), r.magic = sdkMagic) ↔
      Framed handle s stream) ∧
    ∀ garbage rest (p : NetPacket), ¬ sdkMagic <:+: garbage → p.data.length < 2 ^ 31 →
      ((∃ r, (listen handle sched s (.start (garbage ++ p.raw ++ rest))).head? = some r ∧
          r.magic = sdkMagic ∧ r.packet = p) ↔ garbage = []) := by
  refine ⟨fun stream => ⟨framed_of_magic, fun framed => magic_of_framed framed⟩,
    fun garbage rest p clean counted => ?_⟩
  constructor
  · rintro ⟨r, first, magic, -⟩
    cases parsed : parse (Wire.start (garbage ++ p.raw ++ rest)).arrived
        (Wire.start (garbage ++ p.raw ++ rest)).stream with
    | none =>
        rw [listen_of_incomplete handle _ s parsed] at first
        cases first
    | some result =>
        obtain ⟨q, tail⟩ := result
        obtain ⟨calls, run⟩ := listen_of_parse handle sched s parsed
        rw [run] at first
        obtain rfl := Option.some.inj first
        obtain ⟨stream, -, four, -⟩ := parse_split parsed
        have shape : garbage ++ (sdkMagic ++ (p.header ++ (p.data ++ rest))) =
            q.magic ++ (q.packet.header ++ (q.packet.data ++ tail)) := by
          simpa only [Wire.start, NetPacket.raw, Received.raw, List.append_assoc] using stream
        exact take_four_garbage clean (by rw [shape, List.take_left' four, magic])
  · rintro rfl
    obtain ⟨calls, run⟩ := @listen_of_raw σ handle sched s p counted [] rest 0
    exact ⟨_, by rw [List.nil_append, Wire.start, run]; rfl, rfl, rfl⟩

end Listen

/-- A client name is dispatched as it was sent. -/
theorem clientName_dispatched :
    ∃ r, (listen (NetworkServer.listener idleServices) (fun _ => 3) ⟨[], false, 5⟩
        (.start ([] ++ NetPacket.raw ⟨0, 50, [79, 82, 71, 66], by decide⟩ ++ []))).head? = some r ∧
      r.magic = sdkMagic ∧ r.packet = ⟨0, 50, [79, 82, 71, 66], by decide⟩ :=
  ((framing_iff (NetworkServer.listener idleServices) ⟨[], false, 5⟩ fun _ => 3).2 [] []
    ⟨0, 50, [79, 82, 71, 66], by decide⟩ (by decide) (by decide)).mpr rfl

theorem zeros_dispatched :
    ¬ ∀ r ∈ listen (NetworkServer.listener idleServices) (fun _ => 1) ⟨[], false, 5⟩
      (.start (List.replicate 16 0)), r.magic = sdkMagic := by
  intro magic
  have parsed : parse [] (List.replicate 16 0) =
      some (⟨[0, 0, 0, 0], ⟨0, 0, [], by decide⟩, List.replicate 16 0⟩, []) := rfl
  obtain ⟨calls, run⟩ := @listen_of_parse _ (NetworkServer.listener idleServices) (fun _ => 1)
    ⟨[], false, 5⟩ (.start (List.replicate 16 0)) _ _ parsed
  rw [run] at magic
  exact absurd (magic _ List.mem_cons_self) (by decide)

end SyncRGB
