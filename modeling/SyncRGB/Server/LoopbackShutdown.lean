import SyncRGB.JsonRpc.ShutdownLatch
import SyncRGB.Server.WebSocket

/-! Who can shut the server down: how the address of a peer is found in the text of its endpoint, and for which
peers and messages a shutdown is scheduled. -/
namespace SyncRGB
open ByteCodec Effect JsonRpc JSONRPCHandler

/-- The peer of a connection. -/
inductive Endpoint where
  | v4 (a b c d : UInt8) (port : UInt16)
  | v6 (address : BitVec 128) (port : UInt16)

namespace Endpoint

def decimal (n : Nat) : Bytes := (Nat.toDigits 10 n).map fun ch => UInt8.ofNat ch.toNat

/-- `get_remote_endpoint()`. The text of an IPv6 address is that of the platform. -/
def text (text6 : BitVec 128 → Bytes) : Endpoint → Bytes
  | v4 a b c d port =>
      decimal a.toNat ++ ascii "." ++ decimal b.toNat ++ ascii "." ++ decimal c.toNat ++ ascii "." ++
        decimal d.toNat ++ ascii ":" ++ decimal port.toNat
  | v6 address port => ascii "[" ++ text6 address ++ ascii "]" ++ ascii ":" ++ decimal port.toNat

/-- In 127.0.0.0/8, also as an IPv4-mapped address, or `::1`. -/
def Loopback : Endpoint → Prop
  | v4 a _ _ _ _ => a = 127
  | v6 address _ => address = 1 ∨ address.toNat / 2 ^ 32 = 0xFFFF ∧ address.toNat / 2 ^ 24 % 2 ^ 8 = 127

def IsV4 : Endpoint → Prop
  | v4 _ _ _ _ _ => True
  | v6 _ _ => False

instance (e : Endpoint) : Decidable e.Loopback := by
  cases e with
  | v4 => exact inferInstanceAs (Decidable (_ = _))
  | v6 => exact inferInstanceAs (Decidable (_ ∨ _))

end Endpoint

namespace WebSocketServer
variable {ω : Type} {env : Environment ω}

/-- `WebSocketServer::GetRemoteIP`, on the endpoint text; `none` when there is no connection any more. -/
def getRemoteIP : Option Bytes → Bytes
  | some endpoint =>
      if 58 ∈ endpoint then ((endpoint.reverse.dropWhile (· != 58)).drop 1).reverse else endpoint
  | none => []

theorem getRemoteIP_colon (pre : Bytes) {post : Bytes} (last : (58 : UInt8) ∉ post) :
    getRemoteIP (some (pre ++ 58 :: post)) = pre := by
  have present : (58 : UInt8) ∈ pre ++ 58 :: post := List.mem_append_right _ List.mem_cons_self
  have away : ∀ x ∈ post.reverse, (x != 58) = true := by
    intro x member
    rw [bne_iff_ne]
    rintro rfl
    exact last (List.mem_reverse.mp member)
  rw [getRemoteIP, if_pos present, List.reverse_append, List.reverse_cons, List.append_assoc,
    List.dropWhile_append_of_pos away]
  simp

theorem digit_of_mem_decimal {n : Nat} {x : UInt8} (member : x ∈ Endpoint.decimal n) :
    48 ≤ x.toNat ∧ x.toNat ≤ 57 := by
  obtain ⟨ch, digit, rfl⟩ := List.mem_map.mp member
  have numeral : 48 ≤ ch.toNat ∧ ch.toNat ≤ 57 :=
    Char.isDigit_iff_toNat.mp (Nat.isDigit_of_mem_toDigits (by decide) (by decide) digit)
  have small : (UInt8.ofNat ch.toNat).toNat = ch.toNat := UInt8.toNat_ofNat_of_lt (numeral.2.trans_lt (by decide))
  rwa [small]

theorem colon_notMem_decimal (n : Nat) : (58 : UInt8) ∉ Endpoint.decimal n := by
  intro member
  have range := (digit_of_mem_decimal member).2
  revert range
  decide

theorem decimal_length_pos (n : Nat) : 0 < (Endpoint.decimal n).length := by
  rw [Endpoint.decimal, List.length_map]
  exact Nat.length_toDigits_pos

theorem getRemoteIP_v4 (text6 : BitVec 128 → Bytes) (a b c d : UInt8) (port : UInt16) :
    getRemoteIP (some (Endpoint.text text6 (.v4 a b c d port))) =
      Endpoint.decimal a.toNat ++ ascii "." ++ Endpoint.decimal b.toNat ++ ascii "." ++
        Endpoint.decimal c.toNat ++ ascii "." ++ Endpoint.decimal d.toNat := by
  rw [Endpoint.text, List.append_assoc _ (ascii ":")]
  exact getRemoteIP_colon _ (colon_notMem_decimal _)

/-- The brackets stay. -/
theorem getRemoteIP_v6 (text6 : BitVec 128 → Bytes) (address : BitVec 128) (port : UInt16) :
    getRemoteIP (some (Endpoint.text text6 (.v6 address port))) =
      ascii "[" ++ text6 address ++ ascii "]" := by
  rw [Endpoint.text, List.append_assoc _ (ascii ":")]
  exact getRemoteIP_colon _ (colon_notMem_decimal _)

theorem not_isLoopbackAddress_bracket (rest : Bytes) : isLoopbackAddress (ascii "[" ++ rest) = false := by
  have bracket : ascii "[" ++ rest = 91 :: rest := rfl
  have first : ascii "127.0.0.1" = [49, 50, 55, 46, 48, 46, 48, 46, 49] := rfl
  have second : ascii "::1" = [58, 58, 49] := rfl
  have third : ascii "localhost" = [108, 111, 99, 97, 108, 104, 111, 115, 116] := rfl
  have range : ascii "127." = [49, 50, 55, 46] := rfl
  rw [isLoopbackAddress, bracket, first, second, third, range]
  simp

/-- The first part of an address is what stands in front of its first dot. -/
theorem takeWhile_decimal (n : Nat) (rest : Bytes) :
    (Endpoint.decimal n ++ 46 :: rest).takeWhile (· != 46) = Endpoint.decimal n := by
  have away : ∀ x ∈ Endpoint.decimal n, (x != 46) = true := by
    intro x member
    rw [bne_iff_ne]
    rintro rfl
    have range := (digit_of_mem_decimal member).1
    revert range
    decide
  rw [List.takeWhile_append_of_pos away, List.takeWhile_cons_of_neg (by decide), List.append_nil]

theorem decimal_eq_127 : ∀ n < 256, Endpoint.decimal n = ascii "127" → n = 127 := by
  decide +kernel

/-- The texts that are compared with, and the range, are in 127.0.0.0/8. -/
theorem isLoopbackAddress_dotted {a : UInt8} {rest : Bytes} (long : 4 ≤ rest.length) :
    isLoopbackAddress (Endpoint.decimal a.toNat ++ 46 :: rest) = true ↔ a = 127 := by
  constructor
  · intro seen
    have range : (Endpoint.decimal a.toNat ++ 46 :: rest).take 4 = ascii "127." := by
      have dotted : (46 : UInt8) ∈ Endpoint.decimal a.toNat ++ 46 :: rest :=
        List.mem_append_right _ List.mem_cons_self
      simp only [isLoopbackAddress, Bool.or_eq_true, Bool.and_eq_true, decide_eq_true_eq] at seen
      rcases seen with ((same | same) | same) | ⟨-, same⟩
      · rw [same]
        rfl
      · rw [same] at dotted
        exact absurd dotted (by decide)
      · rw [same] at dotted
        exact absurd dotted (by decide)
      · exact same
    have split := List.take_append_drop 4 (Endpoint.decimal a.toNat ++ 46 :: rest)
    rw [range] at split
    apply UInt8.toNat_inj.mp
    apply decimal_eq_127 _ a.toNat_lt
    rw [← takeWhile_decimal a.toNat rest, ← split]
    rfl
  · rintro rfl
    have first : Endpoint.decimal (127 : UInt8).toNat = ascii "127" := by decide +kernel
    simp only [isLoopbackAddress, Bool.or_eq_true, Bool.and_eq_true, decide_eq_true_eq]
    refine .inr ⟨?_, ?_⟩
    · rw [first, List.length_append, List.length_cons]
      have three : (ascii "127").length = 3 := rfl
      omega
    · rw [first]
      rfl

/-- The peers that are taken for local are those with an IPv4 address in 127.0.0.0/8. -/
theorem isLoopbackAddress_getRemoteIP (text6 : BitVec 128 → Bytes) (e : Endpoint) :
    isLoopbackAddress (getRemoteIP (some (e.text text6))) = true ↔ e.IsV4 ∧ e.Loopback := by
  cases e with
  | v4 a b c d port =>
      have dotted : Endpoint.decimal a.toNat ++ ascii "." ++ Endpoint.decimal b.toNat ++ ascii "." ++
            Endpoint.decimal c.toNat ++ ascii "." ++ Endpoint.decimal d.toNat =
          Endpoint.decimal a.toNat ++ 46 :: (Endpoint.decimal b.toNat ++ ascii "." ++
            Endpoint.decimal c.toNat ++ ascii "." ++ Endpoint.decimal d.toNat) := by
        simp only [List.append_assoc]
        rfl
      have long : 4 ≤ (Endpoint.decimal b.toNat ++ ascii "." ++ Endpoint.decimal c.toNat ++ ascii "." ++
          Endpoint.decimal d.toNat).length := by
        have second := decimal_length_pos b.toNat
        have third := decimal_length_pos c.toNat
        have dot : (ascii ".").length = 1 := rfl
        simp only [List.length_append, dot]
        omega
      rw [getRemoteIP_v4, dotted, isLoopbackAddress_dotted long]
      exact (and_iff_right trivial).symm
  | v6 address port =>
      rw [getRemoteIP_v6, List.append_assoc, not_isLoopbackAddress_bracket]
      apply iff_of_false
      · exact Bool.false_ne_true
      · rintro ⟨other, -⟩
        exact other

/-! ### Steps -/

section Steps
variable {sending : Sending} {s : WebSocketServer ω}

theorem sendToClient_keeps (response : Json) :
    (sendToClient sending response s).2.handler = s.handler ∧
      (sendToClient sending response s).2.shutdownScheduled = s.shutdownScheduled := by
  unfold sendToClient
  cases response.dumps with
  | false => exact ⟨rfl, rfl⟩
  | true =>
      cases sending with
      | sent => exact ⟨rfl, rfl⟩
      | failed => exact ⟨rfl, rfl⟩

/-- Behind a reply that is sent, or given up by the transport, the shutdown is scheduled on demand. -/
theorem sendToClient_scheduled (response : Json) (wanted : Bool) :
    (((do sendToClient sending response; if wanted then scheduleShutdown) : OnLoop ω Unit)
      s).2.shutdownScheduled = true ↔ s.shutdownScheduled = true ∨ response.dumps = true ∧ wanted = true := by
  have keeps := (@sendToClient_keeps ω sending s response).2
  have dumped := @sendToClient_ok ω sending response s
  rcases run_cases (sendToClient sending response) s with ⟨⟨⟩, t, run⟩ | ⟨e, t, run⟩
  · rw [run] at keeps dumped
    rw [bind_ok run, iff_true_intro (dumped.mp rfl), true_and, ← keeps]
    cases wanted with
    | true => exact iff_of_true rfl (.inr rfl)
    | false => exact (or_iff_left Bool.false_ne_true).symm
  · rw [run] at keeps dumped
    rw [bind_error run]
    have unwritten : ¬ response.dumps = true := by
      intro written
      cases dumped.mpr written
    rw [or_iff_left fun both => unwritten both.1]
    exact Bool.eq_iff_iff.mp keeps

theorem sendToClient_handler (response : Json) (wanted : Bool) :
    (((do sendToClient sending response; if wanted then scheduleShutdown) : OnLoop ω Unit) s).2.handler =
      s.handler := by
  have keeps := (@sendToClient_keeps ω sending s response).1
  rcases run_cases (sendToClient sending response) s with ⟨⟨⟩, t, run⟩ | ⟨e, t, run⟩
  · rw [run] at keeps
    rw [bind_ok run, ← keeps]
    cases wanted with
    | true => rfl
    | false => rfl
  · rw [run] at keeps
    rw [bind_error run]
    exact keeps

theorem shutdown_handler (request : Json) (loopback : Bool) :
    (shutdown request loopback sending s).2.handler = s.handler := by
  rw [shutdown]
  cases requestId request with
  | error what => rfl
  | ok id => exact sendToClient_handler (shutdownResponse loopback id) loopback

/-- A request that nothing is answered to ends the loop before anything is sent. -/
theorem dispatch_of_left {env : Environment ω} {request : Json} {loopback : Bool} {reply : Json}
    (left : respond env request loopback s.handler = (reply, none)) :
    dispatch env request loopback sending s = (.error .outside, s) := by
  have run : response env request loopback s = (.error .outside, s) := by rw [response, left]
  rw [dispatch, bind_error run]

/-- The request for the shutdown is taken from the handler before the reply is sent. -/
theorem dispatch_of_replied {env : Environment ω} {request : Json} {loopback : Bool} {reply : Json}
    {handler : JSONRPCHandler ω} (replied : respond env request loopback s.handler = (reply, some handler)) :
    dispatch env request loopback sending s =
      ((do sendToClient sending reply; if handler.shutdownRequested then scheduleShutdown) : OnLoop ω Unit)
        { s with handler := { handler with shutdownRequested := false } } := by
  have run : response env request loopback s = (.ok reply, { s with handler }) := by rw [response, replied]
  have taken (u : WebSocketServer ω) : takeShutdownRequested u =
      ((.ok u.handler.shutdownRequested,
        { u with handler := { u.handler with shutdownRequested := false } }) :
        Except Leaving Bool × WebSocketServer ω) := rfl
  rw [dispatch, bind_ok run, bind_ok (taken _)]

/-- A message takes the request it has latched. -/
theorem dispatch_latch {env : Environment ω} {request : Json} {loopback : Bool}
    (empty : s.handler.shutdownRequested = false) :
    (dispatch env request loopback sending s).2.handler.shutdownRequested = false := by
  rcases replied : respond env request loopback s.handler with ⟨reply, - | handler⟩
  · rw [dispatch_of_left replied]
    exact empty
  · rw [dispatch_of_replied replied]
    exact congrArg JSONRPCHandler.shutdownRequested (sendToClient_handler reply _)

theorem onMessage_latch {env : Environment ω} {parse : Bytes → Option Json} {isText : Bool} {payload ip : Bytes}
    (empty : s.handler.shutdownRequested = false) :
    (onMessage env parse isText payload ip sending s).2.handler.shutdownRequested = false := by
  unfold onMessage
  cases isText with
  | false => exact empty
  | true =>
      rw [if_pos rfl]
      cases parse payload with
      | none => exact (congrArg JSONRPCHandler.shutdownRequested (sendToClient_keeps _).1).trans empty
      | some request =>
          dsimp only
          split
          · exact (congrArg JSONRPCHandler.shutdownRequested (shutdown_handler request _)).trans empty
          · exact dispatch_latch empty

theorem shutdown_scheduled (request : Json) (loopback : Bool) (idle : s.shutdownScheduled = false) :
    (shutdown request loopback sending s).2.shutdownScheduled = true ↔ loopback = true ∧ HasIntId request := by
  rw [shutdown, HasIntId]
  cases requestId request with
  | error what =>
      apply iff_of_false
      · exact ne_true_of_eq_false idle
      · rintro ⟨-, id, other⟩
        cases other
  | ok id =>
      have written := shutdownResponse_dumps loopback id
      apply (sendToClient_scheduled (shutdownResponse loopback id) loopback).trans
      rw [idle, written]
      simp

theorem dispatch_scheduled {env : Environment ω} {request : Json} {loopback : Bool}
    (idle : s.shutdownScheduled = false) : (dispatch env request loopback sending s).2.shutdownScheduled = true ↔
      ∃ t, (respond env request loopback s.handler).2 = some t ∧
        (respond env request loopback s.handler).1.dumps = true ∧ t.shutdownRequested = true := by
  rcases replied : respond env request loopback s.handler with ⟨reply, - | handler⟩
  · rw [dispatch_of_left replied]
    apply iff_of_false
    · exact ne_true_of_eq_false idle
    · rintro ⟨t, other, -⟩
      cases other
  · rw [dispatch_of_replied replied]
    apply (sendToClient_scheduled reply _).trans
    constructor
    · rintro (other | both)
      · exact absurd other (ne_true_of_eq_false idle)
      · exact ⟨handler, rfl, both⟩
    · rintro ⟨t, same, both⟩
      cases same
      exact .inr both

end Steps

/-! ### Who may shut the server down -/

/-- The message holds a well-formed request for the shutdown, alone or in a batch. -/
def RequestsShutdown : Json → Prop
  | .array requests => ∃ request ∈ requests, IsShutdownRequest request
  | request => IsShutdownRequest request

theorem isShutdown_of_request {request : Json} (wellFormed : IsShutdownRequest request) :
    isShutdown request = true := by
  rw [isShutdown, wellFormed.2]
  exact decide_eq_true rfl

theorem isShutdown_method {request : Json} (shut : isShutdown request = true) :
    request.find "method" = some (.string (ascii "server.shutdown")) := by
  unfold isShutdown at shut
  split at shut
  · rename_i method found
    rw [found, of_decide_eq_true shut]
  · cases shut

section
variable (env : Environment ω) (text6 : BitVec 128 → Bytes) (parse : Bytes → Option Json)

/-- The message schedules a shutdown, whatever earlier ones did, exactly when a loopback peer asks for it. -/
def LoopbackOnly (e : Endpoint) (payload : Bytes) (sending : Sending) (s : WebSocketServer ω) : Prop :=
  (onMessage env parse true payload (getRemoteIP (some (e.text text6))) sending
      { s with shutdownScheduled := false }).2.shutdownScheduled = true ↔
    e.Loopback ∧ ∃ request, parse payload = some request ∧ RequestsShutdown request

/-- What a loopback peer asks for is recognized. In a batch, the peer has an IPv4 address, one of the requests for
the shutdown has an id that is missing or a number, and the batch is served. Alone, a request over IPv4 has such
an id just when it names the version of the protocol, and a request over IPv6 does not name it. -/
def Recognized (e : Endpoint) (request : Json) (h : JSONRPCHandler ω) : Prop :=
  e.Loopback →
    match request with
    | .array requests => (∃ request ∈ requests, IsShutdownRequest request) →
        e.IsV4 ∧ (∃ request ∈ requests, IsShutdownRequest request ∧ HasIntId request) ∧
          Served env (.array requests) true h
    | request => isShutdown request = true →
        (e.IsV4 ∧ HasIntId request ↔ hasVersion request = true)

variable {env} {text6} {parse} {h : JSONRPCHandler ω} {loopback : Bool}

/-- A batch latches the shutdown that it asks for, when it is served. -/
theorem respond_batch_latches (texts : env.TextsInUtf8) {requests : List Json}
    (dumped : (Json.array requests).dumps = true) (idle : h.shutdownRequested = false) :
    (∃ t, (respond env (.array requests) loopback h).2 = some t ∧
        (respond env (.array requests) loopback h).1.dumps = true ∧ t.shutdownRequested = true) ↔
      loopback = true ∧ (∃ request ∈ requests, IsShutdownRequest request ∧ HasIntId request) ∧
        Served env (.array requests) loopback h := by
  have latches {t : JSONRPCHandler ω} (inside : (respond env (.array requests) loopback h).2 = some t) :
      t.shutdownRequested = true ↔
        loopback = true ∧ ∃ request ∈ requests, IsShutdownRequest request ∧ HasIntId request := by
    rw [handleRequests_latches inside, idle]
    simp
  rw [← respond_ok texts dumped]
  constructor
  · rintro ⟨t, inside, written, latched⟩
    obtain ⟨near, asked⟩ := (latches inside).mp latched
    exact ⟨near, asked, t, inside, written⟩
  · rintro ⟨near, asked, t, inside, written⟩
    exact ⟨t, inside, written, (latches inside).mpr ⟨near, asked⟩⟩

/-- Another request latches nothing. -/
theorem respond_other_latches {request : Json} (other : ¬ isShutdown request = true)
    (single : ∀ requests, request ≠ .array requests) (idle : h.shutdownRequested = false)
    {t : JSONRPCHandler ω} (inside : (respond env request loopback h).2 = some t) :
    t.shutdownRequested = false := by
  have answered : respond env request loopback h = handleRequest (answering env) request loopback (some h) := by
    cases request with
    | array requests => exact absurd rfl (single requests)
    | _ => rfl
  rw [answered] at inside
  rw [← Bool.not_eq_true, handleRequest_latches inside, idle]
  rintro (latched | ⟨-, wellFormed, -⟩)
  · cases latched
  · exact other (isShutdown_of_request wellFormed)

end

section
variable (env : Environment ω) (parse : Bytes → Option Json)

/-- The states in front of a message. The devices, and the mark of a rescan, are shared with other threads. -/
inductive Reached : WebSocketServer ω → Prop
  | start (devices : Devices ω) :
      Reached { handler := { devices, rescanInProgress := false, shutdownRequested := false }, sent := []
                shutdownScheduled := false }
  | shared {s : WebSocketServer ω} (devices : Devices ω) (rescanInProgress : Bool) (reached : Reached s) :
      Reached { s with handler := { s.handler with devices, rescanInProgress } }
  | message {s : WebSocketServer ω} (isText : Bool) (payload ip : Bytes) (sending : Sending) (reached : Reached s) :
      Reached (onMessage env parse isText payload ip sending s).2

variable {env} {parse}

theorem Reached.latch {s : WebSocketServer ω} (reached : Reached env parse s) :
    s.handler.shutdownRequested = false := by
  induction reached with
  | start devices => rfl
  | shared devices rescanInProgress reached ih => exact ih
  | message isText payload ip sending reached ih => exact onMessage_latch ih

theorem isShutdown_array (requests : List Json) : ¬ isShutdown (.array requests) = true := Bool.false_ne_true

theorem loopbackOnly_batch (texts : env.TextsInUtf8) {text6 : BitVec 128 → Bytes} {e : Endpoint} {payload : Bytes}
    {sending : Sending} {s : WebSocketServer ω} (empty : s.handler.shutdownRequested = false)
    {requests : List Json} (read : parse payload = some (.array requests))
    (dumped : (Json.array requests).dumps = true) :
    LoopbackOnly env text6 parse e payload sending s ↔ Recognized env e (.array requests) s.handler := by
  have seen := isLoopbackAddress_getRemoteIP text6 e
  have scheduled := (@dispatch_scheduled ω sending { s with shutdownScheduled := false } env (.array requests)
    (isLoopbackAddress (getRemoteIP (some (e.text text6)))) rfl).trans (respond_batch_latches texts dumped empty)
  have only : (∃ request, parse payload = some request ∧ RequestsShutdown request) ↔
      ∃ request ∈ requests, IsShutdownRequest request := by
    simp only [read, Option.some.injEq, exists_eq_left', RequestsShutdown]
  unfold LoopbackOnly onMessage
  rw [if_pos rfl, only, read]
  dsimp only
  rw [if_neg (isShutdown_array requests), scheduled, seen]
  constructor
  · intro agree loopback asked
    have all := agree.mpr ⟨loopback, asked⟩
    have near := seen.mpr all.1
    rw [near] at all
    exact ⟨all.1.1, all.2⟩
  · intro recognized
    constructor
    · rintro ⟨⟨-, loopback⟩, ⟨request, member, wellFormed, -⟩, -⟩
      exact ⟨loopback, request, member, wellFormed⟩
    · rintro ⟨loopback, asked⟩
      obtain ⟨v4, numbered, served⟩ := recognized loopback asked
      have near := seen.mpr ⟨v4, loopback⟩
      rw [near]
      exact ⟨⟨v4, loopback⟩, numbered, served⟩

theorem loopbackOnly_single {text6 : BitVec 128 → Bytes} {e : Endpoint} {payload : Bytes} {sending : Sending}
    {s : WebSocketServer ω} (empty : s.handler.shutdownRequested = false) {request : Json}
    (single : ∀ requests, request ≠ .array requests) (read : parse payload = some request) :
    LoopbackOnly env text6 parse e payload sending s ↔ Recognized env e request s.handler := by
  have seen := isLoopbackAddress_getRemoteIP text6 e
  have only : (∃ request, parse payload = some request ∧ RequestsShutdown request) ↔
      IsShutdownRequest request := by
    have alone : RequestsShutdown request ↔ IsShutdownRequest request := by
      cases request with
      | array requests => exact absurd rfl (single requests)
      | _ => exact Iff.rfl
    simp only [read, Option.some.injEq, exists_eq_left', alone]
  have demand : Recognized env e request s.handler ↔ (e.Loopback → isShutdown request = true →
      (e.IsV4 ∧ HasIntId request ↔ hasVersion request = true)) := by
    cases request with
    | array requests => exact absurd rfl (single requests)
    | _ => exact Iff.rfl
  rw [demand]
  unfold LoopbackOnly onMessage
  rw [if_pos rfl, only, read]
  dsimp only
  by_cases shut : isShutdown request = true
  · have versioned : IsShutdownRequest request ↔ hasVersion request = true := by
      exact and_iff_left (isShutdown_method shut)
    have ordered : (e.IsV4 ∧ e.Loopback) ∧ HasIntId request ↔ e.Loopback ∧ e.IsV4 ∧ HasIntId request :=
      and_assoc.trans and_left_comm
    rw [if_pos shut, shutdown_scheduled request _ rfl, seen, versioned, ordered, and_congr_right_iff]
    constructor
    · intro agree loopback _
      exact agree loopback
    · intro agree loopback
      exact agree loopback shut
  · have other : ¬ IsShutdownRequest request := fun wellFormed => shut (isShutdown_of_request wellFormed)
    rw [if_neg shut, dispatch_scheduled rfl]
    apply iff_of_true
    · apply iff_of_false
      · rintro ⟨t, inside, -, latched⟩
        rw [respond_other_latches shut single empty inside] at latched
        cases latched
      · rintro ⟨-, wellFormed⟩
        exact other wellFormed
    · intro _ also
      exact absurd also shut

/-- In every state that messages lead to, a message of any peer schedules a shutdown exactly when a loopback peer
asks for it, if and only if what such a peer asks for is recognized. -/
theorem onMessage_loopbackOnly (texts : env.TextsInUtf8)
    (parsed : ∀ payload request, parse payload = some request → request.dumps = true) (text6 : BitVec 128 → Bytes)
    (e : Endpoint) (payload : Bytes) (sending : Sending) {s : WebSocketServer ω} (reached : Reached env parse s) :
    LoopbackOnly env text6 parse e payload sending s ↔
      ∀ request, parse payload = some request → Recognized env e request s.handler := by
  cases read : parse payload with
  | none =>
      apply iff_of_true
      · unfold LoopbackOnly onMessage
        rw [if_pos rfl, read]
        dsimp only
        rw [(sendToClient_keeps parseErrorResponse).2]
        apply iff_of_false
        · exact Bool.false_ne_true
        · rintro ⟨-, request, other, -⟩
          cases other
      · intro request other
        cases other
  | some request =>
      have only : (∀ request', some request = some request' → Recognized env e request' s.handler) ↔
          Recognized env e request s.handler := by
        constructor
        · intro all
          exact all request rfl
        · intro holds request' same
          cases same
          exact holds
      rw [only]
      by_cases batch : ∃ requests, request = .array requests
      · obtain ⟨requests, rfl⟩ := batch
        exact loopbackOnly_batch texts reached.latch read (parsed payload _ read)
      · exact loopbackOnly_single reached.latch (not_exists.mp batch) read

/-- A local peer shuts the server down over IPv4. -/
theorem onMessage_loopbackOnly_v4 : LoopbackOnly plainEnvironment (fun _ => ascii "::1")
    (parseRequest "server.shutdown" "1" (.unsigned 1)) (.v4 127 0 0 1 50000) (requestText "server.shutdown" "1")
    .sent (serverOf (ascii "Lamp")) := by
  have parsed : ∀ payload request,
      parseRequest "server.shutdown" "1" (.unsigned 1) payload = some request → request.dumps = true :=
    fun _ _ => parseRequest_dumps (isUtf8_ofList (by decide)) rfl
  apply (onMessage_loopbackOnly plainEnvironment_texts parsed _ _ _ _ (Reached.start _)).mpr
  intro request read
  cases read.symm.trans (if_pos rfl)
  intro _ _
  exact iff_of_true ⟨trivial, 1, rfl⟩ rfl

/-- Over IPv6 it does not. -/
theorem onMessage_ignores_v6 : ¬ LoopbackOnly plainEnvironment (fun _ => ascii "::1")
    (parseRequest "server.shutdown" "1" (.unsigned 1)) (.v6 1 50000) (requestText "server.shutdown" "1")
    .sent (serverOf (ascii "Lamp")) := by
  intro only
  have scheduled := only.mpr ⟨.inl rfl, _, if_pos rfl, rfl, rfl⟩
  revert scheduled
  decide +kernel

end

end WebSocketServer
end SyncRGB
