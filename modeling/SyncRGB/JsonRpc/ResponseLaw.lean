import Mathlib.Data.Rat.Cast.Defs
import SyncRGB.JsonRpc.Handler

/-! The response law of JSON-RPC 2.0, and which requests the handler answers by it. -/
namespace SyncRGB
open ByteCodec

/-- The value of a number. The library compares its three kinds of numbers by their values. -/
def Json.number : Json → Option Rat
  | unsigned n => some n.toNat
  | integer i => some i.toInt
  | float q => some q
  | _ => none

namespace JsonRpc

/-- Equal as ids: strings, nulls, or numbers of one value. -/
def SameId : Json → Json → Prop
  | .string s, .string t => s = t
  | .null, .null => True
  | a, b => ∃ q, a.number = some q ∧ b.number = some q

/-- The id of a request if it is a string, a number or null, and null when no id can be read. -/
def expectedId (request : Json) : Json :=
  match request.find "id" with
  | some (.string s) => .string s
  | some j => if j.number.isSome then j else .null
  | none => .null

/-- A request object without an id. -/
def IsNotification (request : Json) : Prop :=
  hasVersion request = true ∧ (∃ method, request.find "method" = some (.string method)) ∧
    request.contains "id" = false

structure ResponseLaw (request response : Json) : Prop where
  version : response.find "jsonrpc" = some (.string (ascii "2.0"))
  one : response.contains "result" ≠ response.contains "error"
  id : ∃ id, response.find "id" = some id ∧ SameId (expectedId request) id

section
variable {σ : Type} (callMethod : CallMethod σ)

/-- A request object whose id is a number that an `int` can hold and whose method returns. -/
structure Answerable (request : Json) (clientIsLoopback : Bool) (s : σ) : Prop where
  version : hasVersion request = true
  id : ∃ j, ∃ i : Int32, request.find "id" = some j ∧ j.number = some (i.toInt : Rat)
  returns : ∃ method reply, request.find "method" = some (.string method) ∧
    (callMethod method ((request.find "params").getD (.object [])) clientIsLoopback s).1 = .ok reply

/-- Each element of a batch in the state that the elements in front of it leave. -/
def AllAnswerable (clientIsLoopback : Bool) : List Json → σ → Prop
  | [], _ => True
  | request :: rest, s =>
      (¬ IsNotification request → Answerable callMethod request clientIsLoopback s) ∧
        AllAnswerable clientIsLoopback rest (handleRequest callMethod request clientIsLoopback s).2

end

/-- One response for each element, in their order, by the law where the element is no notification. -/
def BatchLaw (requests : List Json) (response : Json) : Prop :=
  ∃ responses, response = .array responses ∧
    List.Forall₂ (fun request response => ¬ IsNotification request → ResponseLaw request response)
      requests responses

/-! ### The id -/

theorem number_ofInt32 (i : Int32) : (Json.ofInt32 i).number = some (i.toInt : Rat) := by
  simp [Json.ofInt32, Json.number]

theorem toInt32_ofInt (i : Int32) : (UInt32.ofInt i.toInt).toInt32 = i := by
  apply Int32.toInt_inj.mp
  have low : -2147483648 ≤ i.toInt := i.le_toInt
  have high : i.toInt < 2147483648 := i.toInt_lt
  show (BitVec.ofNat 32 (i.toInt % 4294967296).toNat).toInt = i.toInt
  rw [BitVec.toInt_eq_toNat_bmod, BitVec.toNat_ofNat, Int.bmod_def]
  omega

/-- An integer is cut to 32 bits. -/
theorem toWord_of_number {j : Json} {i : Int} (number : j.number = some (i : Rat)) :
    j.toWord = .ok (UInt32.ofInt i) := by
  cases j with
  | unsigned n =>
      have value : (n.toNat : Int) = i := by exact_mod_cast Option.some.inj number
      have cut : n.toUInt32 = UInt32.ofInt n.toNat := by
        apply UInt32.toNat_inj.mp
        simp only [UInt64.toNat_toUInt32, UInt32.ofInt, UInt32.toNat_ofNat']
        omega
      rw [Json.toWord, cut, value]
  | integer k =>
      have value : k.toInt = i := by exact_mod_cast Option.some.inj number
      rw [Json.toWord, value]
  | float q =>
      have value : q = (i : Rat) := Option.some.inj number
      rw [Json.toWord, value, Rat.num_intCast, Rat.den_intCast]
      simp
  | _ => cases number

theorem requestId_of_number {request j : Json} {i : Int32} (found : request.find "id" = some j)
    (number : j.number = some (i.toInt : Rat)) : requestId request = .ok i := by
  simp only [requestId, found, toWord_of_number number, toInt32_ofInt]

/-- A number only stands for a number of the same value. -/
theorem sameId_ofInt32 (request : Json) (i : Int32) :
    SameId (expectedId request) (.ofInt32 i) ↔
      ∃ j, request.find "id" = some j ∧ j.number = some (i.toInt : Rat) := by
  unfold expectedId
  cases request.find "id" with
  | none =>
      constructor
      · rintro ⟨q, null, -⟩
        cases null
      · rintro ⟨j, missing, -⟩
        cases missing
  | some j =>
      have numbers : (∃ q, j.number = some q ∧ (Json.ofInt32 i).number = some q) ↔
          ∃ j', some j = some j' ∧ j'.number = some (i.toInt : Rat) := by
        rw [number_ofInt32]
        constructor
        · rintro ⟨q, value, same⟩
          exact ⟨j, rfl, value.trans same.symm⟩
        · rintro ⟨_, same, value⟩
          cases same
          exact ⟨_, value, rfl⟩
      cases j with
      | unsigned n => exact numbers
      | integer k => exact numbers
      | float q => exact numbers
      | _ => exact numbers

/-! ### The envelopes -/

theorem not_responseLaw_createError (request : Json) (code : Int) (message : Bytes) :
    ¬ ResponseLaw request (createError code message) := fun law => nomatch law.version

theorem methodReply_fields (result : Json) (id : Int32) :
    (methodReply result id).find "jsonrpc" = some (.string (ascii "2.0")) ∧
      (methodReply result id).contains "result" ≠ (methodReply result id).contains "error" ∧
      (methodReply result id).find "id" = some (.ofInt32 id) := by
  unfold methodReply
  split
  · exact ⟨rfl, Bool.false_ne_true, rfl⟩
  · exact ⟨rfl, Bool.noConfusion, rfl⟩

theorem responseLaw_methodReply (request result : Json) (id : Int32) :
    ResponseLaw request (methodReply result id) ↔ SameId (expectedId request) (.ofInt32 id) := by
  obtain ⟨version, one, reported⟩ := methodReply_fields result id
  constructor
  · rintro ⟨-, -, id', found, same⟩
    rw [reported] at found
    cases found
    exact same
  · intro same
    exact ⟨version, one, _, reported, same⟩

/-! ### The requests -/

section
variable {σ : Type} {callMethod : CallMethod σ} {request : Json} {clientIsLoopback : Bool} {s : σ}

/-- Where a method returned, the envelope has its reply; everywhere else there is no envelope. -/
theorem handleRequest_cases :
    (∃ code message,
      (handleRequest callMethod request clientIsLoopback s).1 = createError code message) ∨
    ∃ method id result, hasVersion request = true ∧ request.find "method" = some (.string method) ∧
      requestId request = .ok id ∧
      (callMethod method ((request.find "params").getD (.object [])) clientIsLoopback s).1 = .ok result ∧
      (handleRequest callMethod request clientIsLoopback s).1 = methodReply result id := by
  unfold handleRequest
  cases version : hasVersion request with
  | false => exact .inl ⟨_, _, rfl⟩
  | true =>
      cases found : request.find "method" with
      | none =>
          simp only [Json.contains, found]
          exact .inl ⟨_, _, rfl⟩
      | some j =>
          simp only [Json.contains, found, requestFields, Option.getD_some]
          cases j with
          | string method =>
              cases reads : requestId request with
              | error what => exact .inl ⟨_, _, rfl⟩
              | ok id =>
                  rcases call : callMethod method ((request.find "params").getD (.object []))
                    clientIsLoopback s with ⟨_ | result, t⟩
                  · simp only [methodName, bind, Except.bind, pure, Except.pure, call]
                    exact .inl ⟨_, _, rfl⟩
                  · simp only [methodName, bind, Except.bind, pure, Except.pure, call]
                    exact .inr ⟨method, id, result, trivial, rfl, rfl, congrArg Prod.fst call, rfl⟩
          | _ => exact .inl ⟨_, _, rfl⟩

theorem handleRequest_of_returns {method : Bytes} {id : Int32} {result : Json}
    (version : hasVersion request = true) (found : request.find "method" = some (.string method))
    (reads : requestId request = .ok id)
    (returns : (callMethod method ((request.find "params").getD (.object [])) clientIsLoopback s).1 =
      .ok result) :
    (handleRequest callMethod request clientIsLoopback s).1 = methodReply result id := by
  rcases call : callMethod method ((request.find "params").getD (.object [])) clientIsLoopback s
    with ⟨outcome, t⟩
  rw [call] at returns
  cases returns
  simp only [handleRequest, version, Json.contains, found, requestFields, Option.getD_some, methodName,
    reads, bind, Except.bind, pure, Except.pure, call]
  rfl

theorem responseLaw_iff :
    ResponseLaw request (handleRequest callMethod request clientIsLoopback s).1 ↔
      Answerable callMethod request clientIsLoopback s := by
  constructor
  · intro law
    rcases @handleRequest_cases σ callMethod request clientIsLoopback s with
      ⟨code, message, bare⟩ | ⟨method, id, result, version, found, reads, returns, reply⟩
    · rw [bare] at law
      exact absurd law (not_responseLaw_createError request code message)
    · rw [reply, responseLaw_methodReply, sameId_ofInt32] at law
      obtain ⟨j, has, number⟩ := law
      exact ⟨version, ⟨j, id, has, number⟩, ⟨method, result, found, returns⟩⟩
  · rintro ⟨version, ⟨j, i, has, number⟩, ⟨method, reply, found, returns⟩⟩
    have reads := requestId_of_number has number
    rw [handleRequest_of_returns version found reads returns, responseLaw_methodReply, sameId_ofInt32]
    exact ⟨j, has, number⟩

theorem forall₂_handleRequests_iff (requests : List Json) (s : σ) :
    List.Forall₂ (fun request response => ¬ IsNotification request → ResponseLaw request response)
      requests (handleRequests callMethod clientIsLoopback requests s).1 ↔
        AllAnswerable callMethod clientIsLoopback requests s := by
  induction requests generalizing s with
  | nil => exact iff_of_true .nil trivial
  | cons request rest ih =>
      rw [handleRequests, List.forall₂_cons, AllAnswerable, ih, responseLaw_iff]

end

/-- A request that is no notification is answered by the law exactly when it is a request object, its id
is a number that an `int` can hold, and its method throws nothing; a batch is when each element is. -/
theorem response_law {σ : Type} (callMethod : CallMethod σ) (clientIsLoopback : Bool) (s : σ) :
    (∀ request, ¬ IsNotification request →
      (ResponseLaw request (handleRequest callMethod request clientIsLoopback s).1 ↔
        Answerable callMethod request clientIsLoopback s)) ∧
    ∀ requests, BatchLaw requests
        (handleBatchRequest callMethod (.array requests) clientIsLoopback s).1 ↔
      AllAnswerable callMethod clientIsLoopback requests s := by
  constructor
  · intro request _
    exact responseLaw_iff
  · intro requests
    rw [← forall₂_handleRequests_iff requests s]
    constructor
    · rintro ⟨responses, same, law⟩
      cases same
      exact law
    · intro law
      exact ⟨_, rfl, law⟩

/-- `server.getClients` with the id 7. -/
def getClientsRequest (id : Json) : Json :=
  .object [(ascii "jsonrpc", .string (ascii "2.0")), (ascii "method", .string (ascii "server.getClients")),
    (ascii "id", id)]

def callGetClients : CallMethod Unit := fun _ _ _ s => (.ok getClients, s)

theorem response_law_number :
    ResponseLaw (getClientsRequest (.unsigned 7))
      (handleRequest callGetClients (getClientsRequest (.unsigned 7)) true ()).1 := by
  apply ((response_law callGetClients true ()).1 (getClientsRequest (.unsigned 7)) (fun notification =>
    Bool.noConfusion notification.2.2)).mpr
  exact ⟨rfl, ⟨_, 7, rfl, rfl⟩, ⟨_, _, rfl, rfl⟩⟩

/-- A string is an id, but the reply to it has neither `jsonrpc` nor `id`. -/
theorem response_law_string_id :
    ¬ IsNotification (getClientsRequest (.string (ascii "a"))) ∧
      ¬ ResponseLaw (getClientsRequest (.string (ascii "a")))
        (handleRequest callGetClients (getClientsRequest (.string (ascii "a"))) true ()).1 := by
  constructor
  · exact fun notification => Bool.noConfusion notification.2.2
  · exact fun law => nomatch law.version

end JsonRpc
end SyncRGB
