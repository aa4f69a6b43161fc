import SyncRGB.Controller.Commands

/-! The list of the profiles as a server describes it and as a client reads it. -/
namespace SyncRGB
open ByteCodec Reader

/-- The size that the first pass of `GetProfileListDescription` counts, before it is kept in 32 bits. -/
def profileListSum (profileList : List Bytes) : Nat :=
  4 + 2 + ((profileList.take (count16 profileList.length)).map fun name => 2 + (strlen name + 1)).sum

def profileListSize (profileList : List Bytes) : Nat := profileListSum profileList % 2 ^ 32

def profileListPuts (profileList : List Bytes) : List Put :=
  [Put.u32 (.ofNat (profileListSize profileList)), Put.u16 (count16 profileList.length)] ++
    (profileList.take (count16 profileList.length)).flatMap putString

/-- `ProfileManager::GetProfileListDescription`. -/
def getProfileListDescription (memory : Nat → UInt8) (profileList : List Bytes) : Option Bytes :=
  filled memory (profileListSize profileList) (profileListPuts profileList)

/-- `NetworkClient::ProcessReply_ProfileList`, with `server_controller_count_received` before and after. The
cursor it keeps is never used: the count, every length and every text are copied from the start of the data.
The vector is made with as many empty names as the data has bytes. -/
def processReplyProfileList (dataSize : UInt32) (received : Bool) : Reader (List Bytes × Bool) :=
  if 0 < dataSize then do
    let numProfile ← peek u16
    let names ← many numProfile do
      let nameLen ← peek u16
      peek (take nameLen)
    return (List.replicate dataSize.toNat [] ++ names, true)
  else return ([], received)

/-- The profile list that the client makes of the server's description is the server's. -/
def ProfileListBack (memory : Nat → UInt8) (received : Bool) (profileList : List Bytes) : Prop :=
  ∃ data, getProfileListDescription memory profileList = some data ∧
    ∃ received' p, (processReplyProfileList (.ofNat data.length) received).exec data 0 =
      some ((profileList, received'), p)

/-! ### What the client reads -/

theorem exec_peek {α : Type} {m : Reader α} {buf : Bytes} {p q : Nat} {x : α} (reads : m.exec buf p = some (x, q)) :
    (peek m).exec buf p = some (x, p) := by
  show (m.exec buf p).map _ = _
  rw [reads]
  rfl

/-- A decoder that stays where it is reads the same again. -/
theorem exec_many_still {α : Type} {m : Reader α} {buf : Bytes} {p : Nat} {x : α}
    (still : m.exec buf p = some (x, p)) (n : Nat) :
    (many n m).exec buf p = some (List.replicate n x, p) := by
  have turns : (vector m n).exec buf p = some (List.Vector.replicate n x, p) := by
    induction n with
    | zero => rfl
    | succ n ih =>
        rw [vector, exec_bind, still, Option.bind_some, exec_bind, ih]
        rfl
  rw [many, exec_bind, turns]
  rfl

/-- Any data whose first two bytes, as a number, do not exceed its length. -/
theorem exec_processReplyProfileList {data : Bytes} (some_ : 2 ≤ data.length) (small : data.length < 2 ^ 32)
    (inside : field16 data 0 ≤ data.length) (received : Bool) :
    (processReplyProfileList (.ofNat data.length) received).exec data 0 =
      some ((List.replicate data.length [] ++
        List.replicate (field16 data 0) (data.take (field16 data 0)), true), 0) := by
  have count : (peek u16).exec data 0 = some (field16 data 0, 0) := by
    apply exec_peek (q := 2)
    rw [exec_u16 small, if_pos some_]
  have text : (peek (take (field16 data 0))).exec data 0 = some (data.take (field16 data 0), 0) := by
    apply exec_peek (q := 0 + field16 data 0)
    rw [exec_take_small small, if_pos (by omega)]
    rfl
  have name : (do let nameLen ← peek u16; peek (take nameLen) : Reader Bytes).exec data 0 =
      some (data.take (field16 data 0), 0) := by
    rw [exec_bind, count]
    exact text
  have size : (UInt32.ofNat data.length).toNat = data.length := UInt32.toNat_ofNat_of_lt' small
  have positive : 0 < UInt32.ofNat data.length := by
    rw [UInt32.lt_iff_toNat_lt, size]
    exact Nat.lt_of_lt_of_le (by decide) some_
  rw [processReplyProfileList, if_pos positive, exec_bind, count, Option.bind_some, exec_bind,
    exec_many_still name, size]
  rfl

/-! ### What the server describes -/

section Described
variable {profileList : List Bytes}

theorem profileListSum_ge (count : profileList.length ≤ 65535) :
    6 + 3 * profileList.length ≤ profileListSum profileList := by
  have each : ∀ names : List Bytes, 3 * names.length ≤ (names.map fun name => 2 + (strlen name + 1)).sum := by
    intro names
    induction names with
    | nil => exact Nat.le_refl 0
    | cons name names ih =>
        rw [List.length_cons, List.map_cons, List.sum_cons]
        omega
  have own := each profileList
  rw [profileListSum, take_count16 (by omega)]
  omega

theorem stored_profileListPuts (fits : ∀ name ∈ profileList, strlen name ≤ 65534) :
    stored (profileListPuts profileList) = profileListSum profileList := by
  have names : ((profileList.take (count16 profileList.length)).map fun name => stored (putString name)) =
      (profileList.take (count16 profileList.length)).map fun name => 2 + (strlen name + 1) := by
    apply List.map_congr_left
    intro name member
    exact stored_altName (fits name (List.mem_of_mem_take member))
  rw [profileListPuts, stored_append, stored_flatMap, names, profileListSum]
  simp only [stored_cons, stored_nil, Put.u32_length, Put.u16_length]

theorem exact_profileListPuts (fits : ∀ name ∈ profileList, strlen name ≤ 65534) :
    ∀ q ∈ profileListPuts profileList, q.Exact := by
  apply exact_headed (by simp [Put.u32, Put.u16])
  rw [List.forall_mem_flatMap]
  intro name member
  exact exact_putString (fits name (List.mem_of_mem_take member))

/-- Below 2^32 bytes the description is what was stored, otherwise a store leaves the buffer. -/
theorem getProfileListDescription_eq (memory : Nat → UInt8) (fits : ∀ name ∈ profileList, strlen name ≤ 65534) :
    getProfileListDescription memory profileList =
      if profileListSum profileList < 2 ^ 32 then some (contents (profileListPuts profileList)) else none := by
  have exact := exact_profileListPuts fits
  have total := stored_profileListPuts fits
  have bound : profileListSize profileList < 2 ^ 32 := Nat.mod_lt _ (by decide)
  unfold getProfileListDescription
  split_ifs with small
  · exact filled_exact exact (total.trans (Nat.mod_eq_of_lt small).symm) bound
  · apply filled_short exact _ bound
    rw [total]
    exact Nat.lt_of_lt_of_le bound (Nat.not_lt.mp small)

/-- The client takes the low half of the size for the count. -/
theorem field16_profileListPuts (profileList : List Bytes) :
    field16 (contents (profileListPuts profileList)) 0 = profileListSize profileList % 2 ^ 16 := by
  have size : (UInt32.ofNat (profileListSize profileList)).toNat = profileListSize profileList :=
    UInt32.toNat_ofNat_of_lt' (Nat.mod_lt _ (by decide))
  have front : field16 (contents (profileListPuts profileList)) 0 =
      leValue (le 2 (UInt32.ofNat (profileListSize profileList)).toNat) := rfl
  rw [front, leValue_le, size]
  rfl

/-- The client reads inside the description, and too many names: empty ones, then copies of its front. -/
theorem exec_profileListPuts (count : profileList.length ≤ 65535)
    (fits : ∀ name ∈ profileList, strlen name ≤ 65534) (small : profileListSum profileList < 2 ^ 32)
    (received : Bool) :
    (processReplyProfileList (.ofNat (contents (profileListPuts profileList)).length) received).exec
        (contents (profileListPuts profileList)) 0 =
      some ((List.replicate (profileListSum profileList) [] ++
        List.replicate (profileListSum profileList % 2 ^ 16)
          ((contents (profileListPuts profileList)).take (profileListSum profileList % 2 ^ 16)), true), 0) := by
  have many_ := profileListSum_ge count
  have length : (contents (profileListPuts profileList)).length = profileListSum profileList := by
    rw [contents_length, stored_profileListPuts fits]
  have size : profileListSize profileList = profileListSum profileList := Nat.mod_eq_of_lt small
  have inside : field16 (contents (profileListPuts profileList)) 0 ≤
      (contents (profileListPuts profileList)).length := by
    rw [field16_profileListPuts, length, size]
    exact Nat.mod_le _ _
  have run := exec_processReplyProfileList (by omega) (by omega) inside received
  rw [run, field16_profileListPuts, size, length]

/-- No list of profiles comes back: the description is longer than the list, and the client makes a name of
every byte. -/
theorem not_profileListBack (memory : Nat → UInt8) (received : Bool) (count : profileList.length ≤ 65535)
    (plain : ∀ name ∈ profileList, (0 : UInt8) ∉ name ∧ name.length ≤ 65534) :
    ¬ ProfileListBack memory received profileList := by
  have fits (name : Bytes) (member : name ∈ profileList) : strlen name ≤ 65534 := by
    obtain ⟨text, length⟩ := plain name member
    rwa [strlen, cstr_of_no_nul text]
  rintro ⟨data, described, received', p, run⟩
  rw [getProfileListDescription_eq memory fits] at described
  split_ifs at described with small
  cases described
  rw [exec_profileListPuts count fits small received] at run
  have names := congrArg (fun result => result.map fun r => r.1.1.length) run
  simp only [Option.map_some, List.length_append, List.length_replicate, Option.some.injEq] at names
  have long := profileListSum_ge count
  omega

/-- One profile called `a`. -/
theorem not_profileListBack_one : ¬ ProfileListBack (fun _ => 0) false [[97]] :=
  not_profileListBack (fun _ => 0) false (by decide) (by decide)

/-- The profile `a` is described in ten bytes; the client reads ten empty names and ten copies of the bytes. -/
theorem oneProfile_read :
    (0 : UInt8) ∉ ([97] : Bytes) ∧
      getProfileListDescription (fun _ => 0) [[97]] = some [10, 0, 0, 0, 1, 0, 2, 0, 97, 0] ∧
      (processReplyProfileList 10 false).exec [10, 0, 0, 0, 1, 0, 2, 0, 97, 0] 0 =
        some ((List.replicate 10 [] ++ List.replicate 10 [10, 0, 0, 0, 1, 0, 2, 0, 97, 0], true), 0) ∧
      ¬ ProfileListBack (fun _ => 0) false [[97]] := by
  have described : getProfileListDescription (fun _ => 0) [[97]] = some [10, 0, 0, 0, 1, 0, 2, 0, 97, 0] := by
    decide
  have read : (processReplyProfileList 10 false).exec [10, 0, 0, 0, 1, 0, 2, 0, 97, 0] 0 =
      some ((List.replicate 10 [] ++ List.replicate 10 [10, 0, 0, 0, 1, 0, 2, 0, 97, 0], true), 0) := by
    decide
  refine ⟨by decide, described, read, ?_⟩
  rintro ⟨data, found, received, p, back⟩
  rw [described] at found
  cases found
  have names := congrArg (fun result => result.map fun r => r.1.1.length) (read.symm.trans back)
  exact absurd (show 20 = 1 from Option.some.inj names) (by decide)

end Described
end SyncRGB
