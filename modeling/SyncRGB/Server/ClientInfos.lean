import SyncRGB.Server.AuthGate

/-! Who owns the infos of the clients, and what the clients are told of each other. An info that a failed
notification drops from the map is nobody's, and a refused connection ends with a notification of its own. -/
namespace SyncRGB
open ByteCodec JsonRpc JSONRPCHandler Transition WebSocketServer

namespace Connections
variable {Conn ω : Type} [DecidableEq Conn] {v : SocketService Conn ω} {s t : Connections Conn ω} {e : Event Conn}

/-! ### The map -/

theorem lookup_erase_eq_some {m : ClientMap Conn} {c d : Conn} {info : ClientInfo} :
    (m.erase c).lookup d = some info ↔ d ≠ c ∧ m.lookup d = some info := by
  by_cases same : d = c
  · subst same
    rw [AList.lookup_erase]
    simp
  · rw [AList.lookup_erase_ne same]
    simp [same]

theorem lookup_insert_eq_some {m : ClientMap Conn} {c d : Conn} {new info : ClientInfo} :
    (m.insert c new).lookup d = some info ↔ (d = c ∧ new = info) ∨ d ≠ c ∧ m.lookup d = some info := by
  by_cases same : d = c
  · subst same
    rw [AList.lookup_insert]
    simp
  · rw [AList.lookup_insert_ne same]
    simp [same]

theorem lookup_broadcast_eq_some {throws : Conn → Bool} {d : Conn} {info : ClientInfo} :
    (s.broadcastNotification throws).clients.lookup d = some info ↔
      throws d = false ∧ s.clients.lookup d = some info := by
  rw [← Option.mem_def, ← Option.mem_def, AList.mem_lookup_iff, AList.mem_lookup_iff, broadcastNotification,
    List.mem_filter, Bool.not_eq_true', and_comm]

/-! ### Ownership -/

/-- What is in the map was allocated for its connection and not freed; nothing was freed twice, or used after
that. -/
structure Owned (s : Connections Conn ω) : Prop where
  owner : ∀ c info, s.clients.lookup c = some info →
    s.allocated[info.address]? = some c ∧ info.address ∉ s.freed
  known : ∀ a ∈ s.freed, a < s.allocated.length
  once : s.freed.Nodup
  sound : s.misused = false

theorem Started.owned (started : s.Started) : s.Owned where
  owner c info listed := by
    rw [started.clients, AList.lookup_empty] at listed
    cases listed
  known a freed := by
    rw [started.freed] at freed
    cases freed
  once := by
    rw [started.freed]
    exact List.nodup_nil
  sound := started.misused

namespace Owned

/-- Steps that leave the books alone. -/
theorem of_eq (owned : s.Owned) (clients : t.clients = s.clients) (allocated : t.allocated = s.allocated)
    (freed : t.freed = s.freed) (misused : t.misused = s.misused) : t.Owned where
  owner := by
    rw [clients, allocated, freed]
    exact owned.owner
  known := by
    rw [allocated, freed]
    exact owned.known
  once := freed ▸ owned.once
  sound := misused.trans owned.sound

theorem use (owned : s.Owned) {c : Conn} {info : ClientInfo} (listed : s.clients.lookup c = some info) :
    (s.use info).misused = false := by
  rw [Connections.use, owned.sound, Bool.false_or, decide_eq_false_iff_not]
  exact (owned.owner c info listed).2

theorem welcome (owned : s.Owned) (c : Conn) (ip : Bytes) : (s.welcome c ip).Owned where
  owner d info listed := by
    rcases lookup_insert_eq_some.mp listed with ⟨rfl, rfl⟩ | ⟨-, listed⟩
    · exact ⟨List.getElem?_concat_length, fun freed => Nat.lt_irrefl _ (owned.known _ freed)⟩
    · obtain ⟨own, unfreed⟩ := owned.owner d info listed
      exact ⟨(List.getElem?_append_left (List.getElem?_eq_some_iff.mp own).1).trans own, unfreed⟩
  known a freed := by
    have bound := owned.known a freed
    rw [Connections.welcome, List.length_append]
    exact Nat.lt_add_right _ bound
  once := owned.once
  sound := owned.sound

/-- An info is freed when it leaves the map. -/
theorem release (owned : s.Owned) {c : Conn} {info : ClientInfo} (listed : s.clients.lookup c = some info)
    {t : Connections Conn ω} (clients : t.clients = s.clients.erase c) (allocated : t.allocated = s.allocated)
    (freed : t.freed = s.freed ++ [info.address]) (misused : t.misused = (s.use info).misused) : t.Owned where
  owner d other still := by
    rw [clients] at still
    obtain ⟨apart, listed'⟩ := lookup_erase_eq_some.mp still
    obtain ⟨own, unfreed⟩ := owned.owner d other listed'
    rw [allocated, freed, List.mem_append, List.mem_singleton]
    refine ⟨own, ?_⟩
    rintro (before | same)
    · exact unfreed before
    · rw [same, (owned.owner c info listed).1] at own
      cases own
      exact apart rfl
  known a gone := by
    rw [freed, List.mem_append, List.mem_singleton] at gone
    rw [allocated]
    rcases gone with before | rfl
    · exact owned.known a before
    · exact (List.getElem?_eq_some_iff.mp (owned.owner c info listed).1).1
  once := by
    rw [freed, ← List.concat_eq_append]
    exact owned.once.concat (owned.owner c info listed).2
  sound := misused.trans (owned.use listed)

/-- An entry is not dropped by freeing it. -/
theorem broadcast (owned : s.Owned) (throws : Conn → Bool) : (s.broadcastNotification throws).Owned where
  owner c info listed := owned.owner c info (lookup_broadcast_eq_some.mp listed).2
  known := owned.known
  once := owned.once
  sound := owned.sound

theorem lookup_of_mem {entry : Sigma fun _ : Conn => ClientInfo} (member : entry ∈ s.clients.entries) :
    s.clients.lookup entry.1 = some entry.2 := AList.mem_lookup_iff.mpr member

/-- No two clients share an info. -/
theorem addresses_nodup (owned : s.Owned) :
    ((s.clients.entries.map Sigma.snd).map ClientInfo.address).Nodup := by
  rw [List.map_map]
  apply List.Nodup.map_on _ s.clients.nodupKeys.nodup
  intro x first y second same
  have ownX := (owned.owner x.1 x.2 (lookup_of_mem first)).1
  have ownY := (owned.owner y.1 y.2 (lookup_of_mem second)).1
  have address : x.2.address = y.2.address := same
  rw [address, ownY] at ownX
  exact s.clients.nodupKeys.eq_of_fst_eq first second (Option.some.inj ownX).symm

end Owned

omit [DecidableEq Conn] in
/-- Freeing infos that differ from each other, and from those freed before. -/
theorem releaseAll_books {infos : List ClientInfo} (distinct : (infos.map ClientInfo.address).Nodup)
    (unfreed : ∀ info ∈ infos, info.address ∉ s.freed) :
    (s.releaseAll infos).freed = s.freed ++ infos.map ClientInfo.address ∧
      (s.releaseAll infos).misused = s.misused ∧ (s.releaseAll infos).allocated = s.allocated := by
  induction infos generalizing s with
  | nil => exact ⟨(List.append_nil _).symm, rfl, rfl⟩
  | cons info rest ih =>
      obtain ⟨new, distinct⟩ := List.nodup_cons.mp distinct
      have first := unfreed info List.mem_cons_self
      obtain ⟨freed, misused, allocated⟩ := @ih (s.release info) distinct (by
        intro other member
        rw [release, List.mem_append, List.mem_singleton]
        rintro (before | same)
        · exact unfreed other (List.mem_cons_of_mem _ member) before
        · exact new (same ▸ List.mem_map_of_mem member))
      refine ⟨?_, ?_, allocated⟩
      · rw [releaseAll, freed, release, List.map_cons, List.append_assoc]
        rfl
      · rw [releaseAll, misused, release, use, decide_eq_false first, Bool.or_false]

namespace Owned

theorem unfreed (owned : s.Owned) : ∀ info ∈ s.clients.entries.map Sigma.snd, info.address ∉ s.freed := by
  intro info member
  obtain ⟨entry, listed, rfl⟩ := List.mem_map.mp member
  exact (owned.owner entry.1 entry.2 (lookup_of_mem listed)).2

theorem clear (owned : s.Owned) : s.clearClients.Owned := by
  obtain ⟨freed, misused, allocated⟩ := releaseAll_books owned.addresses_nodup owned.unfreed
  refine ⟨?_, ?_, ?_, misused.trans owned.sound⟩
  · intro c info listed
    cases listed.symm.trans (AList.lookup_empty c)
  · intro a gone
    rw [clearClients] at gone ⊢
    rw [freed, List.mem_append] at gone
    rw [allocated]
    rcases gone with before | now
    · exact owned.known a before
    · obtain ⟨info, member, rfl⟩ := List.mem_map.mp now
      obtain ⟨entry, listed, rfl⟩ := List.mem_map.mp member
      exact (List.getElem?_eq_some_iff.mp (owned.owner entry.1 entry.2 (lookup_of_mem listed)).1).1
  · rw [clearClients, freed]
    apply List.Nodup.append owned.once owned.addresses_nodup
    intro a before now
    obtain ⟨info, member, rfl⟩ := List.mem_map.mp now
    exact owned.unfreed info member before

/-- Nothing is freed twice or used after that, whatever happens. -/
theorem step (owned : s.Owned) (step : Step v s e t) : t.Owned := by
  cases step.move with
  | refused c found sending closing idle fresh refuses =>
      rw [refuse_eq]
      exact owned.of_eq rfl rfl rfl rfl
  | welcomed c found sending closing ip idle fresh allowed => exact owned.welcome c ip
  | message c found isText payload sending closing idle opened =>
      obtain ⟨phase, io, same, -⟩ :=
        @onMessage_eq _ _ _ v s c found isText payload sending closing
      rw [same, updateActivityTime]
      cases listed : s.clients.lookup c with
      | none => exact owned.of_eq rfl rfl rfl rfl
      | some info => exact owned.of_eq rfl rfl rfl ((owned.use listed).trans owned.sound.symm)
  | closed c info idle live known => exact owned.release known rfl rfl rfl rfl
  | closedUnknown c idle live unknown => exact owned.of_eq rfl rfl rfl rfl
  | failed c info idle live known => exact owned.release known rfl rfl rfl rfl
  | failedUnknown c idle live unknown => exact owned.of_eq rfl rfl rfl rfl
  | notify throws event c ip io => exact (owned.broadcast throws).of_eq rfl rfl rfl rfl
  | broadcast throws => exact owned.broadcast throws
  | stop throws online => exact owned.of_eq rfl rfl rfl rfl
  | joined stopping left => exact owned.clear

end Owned

/-! ### Accounts -/

/-- The notification that the handler of the io thread is about to send. -/
def pending : IoThread Conn → List (ClientEvent × Conn)
  | .notifying event c _ => [(event, c)]
  | _ => []

/-- What the notifications say of a connection, in order. -/
def about (c : Conn) (log : List (ClientEvent × Conn)) : List ClientEvent :=
  (log.filter fun entry => entry.2 = c).map Prod.fst

def told (s : Connections Conn ω) (c : Conn) : List ClientEvent := about c (s.notified ++ pending s.io)

theorem about_append (c : Conn) (log more : List (ClientEvent × Conn)) :
    about c (log ++ more) = about c log ++ about c more := by
  rw [about, List.filter_append, List.map_append]
  rfl

theorem about_single (c d : Conn) (event : ClientEvent) : about d [(event, c)] = if d = c then [event] else [] := by
  by_cases same : d = c
  · simp [about, same]
  · simp [about, same, Ne.symm same]

theorem told_notifying {event : ClientEvent} {c : Conn} {ip : Bytes} (idle : s.io = .idle)
    {t : Connections Conn ω} (notified : t.notified = s.notified) (io : t.io = .notifying event c ip) (d : Conn) :
    t.told d = s.told d ++ if d = c then [event] else [] := by
  have before : pending s.io = [] := by
    rw [idle]
    rfl
  have after : pending t.io = [(event, c)] := by
    rw [io]
    rfl
  rw [told, told, notified, before, after, List.append_nil, about_append, about_single]

/-- As far as the server is concerned, the connection has not ended. -/
def Phase.Live (phase : Phase) : Prop := phase = .opened ∨ phase = .closing

/-- Every info is in the map of a connection that was announced and has not ended, or freed; of the others that
have not ended nothing was said. -/
structure Accounted (s : Connections Conn ω) : Prop where
  owned : s.Owned
  held : ∀ a c, s.allocated[a]? = some c →
    a ∈ s.freed ∨ ∃ info, s.clients.lookup c = some info ∧ info.address = a
  live : ∀ c info, s.clients.lookup c = some info → Phase.Live (s.phase c) ∧ s.told c = [.clientConnected]
  fresh : ∀ c, s.phase c = .fresh → s.told c = []
  refused : ∀ c, s.clients.lookup c = none → Phase.Live (s.phase c) → s.stage ≠ .stopped → s.told c = []
  inOrder : ∀ c, s.told c <+: [.clientConnected, .clientDisconnected]
  stopped : s.stage = .stopped → s.io = .ended ∧ ∀ c, s.clients.lookup c = none

theorem Started.accounted (started : s.Started) : s.Accounted := by
  have silent (c : Conn) : s.told c = [] := by
    rw [told, started.notified, started.io]
    rfl
  have empty (c : Conn) : s.clients.lookup c = none := by
    rw [started.clients, AList.lookup_empty]
  refine ⟨started.owned, ?_, ?_, fun c _ => silent c, fun c _ _ _ => silent c, ?_, ?_⟩
  · intro a c allocated
    rw [started.allocated] at allocated
    cases allocated
  · intro c info listed
    cases listed.symm.trans (empty c)
  · intro c
    rw [silent c]
    exact List.nil_prefix
  · intro stopped
    rw [started.stage] at stopped
    cases stopped

namespace Accounted

theorem not_fresh (accounted : s.Accounted) {c : Conn} {info : ClientInfo}
    (listed : s.clients.lookup c = some info) : s.phase c ≠ .fresh := by
  intro fresh
  rcases (accounted.live c info listed).1 with opened | closing
  · cases fresh.symm.trans opened
  · cases fresh.symm.trans closing

theorem not_listed (accounted : s.Accounted) {c : Conn} (fresh : s.phase c = .fresh) :
    s.clients.lookup c = none := by
  cases listed : s.clients.lookup c with
  | none => rfl
  | some info => exact absurd fresh (accounted.not_fresh listed)

theorem not_stopped (accounted : s.Accounted) (idle : s.io = .idle) : s.stage ≠ .stopped := by
  intro stopped
  cases idle.symm.trans (accounted.stopped stopped).1

/-- Steps that move phases only. -/
theorem of_phase (accounted : s.Accounted) (owned : t.Owned) (clients : t.clients = s.clients)
    (allocated : t.allocated = s.allocated) (freed : t.freed = s.freed) (notified : t.notified = s.notified)
    (io : t.io = s.io ∨ s.io = .idle ∧ t.io = .ended) (stage : t.stage = .stopped ↔ s.stage = .stopped)
    (listed : ∀ c info, s.clients.lookup c = some info → Phase.Live (t.phase c))
    (fresh : ∀ c, t.phase c = .fresh → s.phase c = .fresh)
    (alive : ∀ c, Phase.Live (t.phase c) → s.phase c = .fresh ∨ Phase.Live (s.phase c)) : t.Accounted := by
  have told (c : Conn) : t.told c = s.told c := by
    have waiting : pending t.io = pending s.io := by
      rcases io with same | ⟨idle, ended⟩
      · rw [same]
      · rw [idle, ended]
        rfl
    rw [Connections.told, Connections.told, notified, waiting]
  refine ⟨owned, ?_, ?_, ?_, ?_, ?_, ?_⟩
  · rw [allocated, freed, clients]
    exact accounted.held
  · intro c info present
    rw [clients] at present
    exact ⟨listed c info present, (told c).trans (accounted.live c info present).2⟩
  · intro c still
    exact (told c).trans (accounted.fresh c (fresh c still))
  · intro c absent live running
    rw [clients] at absent
    rw [told]
    rcases alive c live with before | before
    · exact accounted.fresh c before
    · exact accounted.refused c absent before (mt stage.mpr running)
  · intro c
    rw [told]
    exact accounted.inOrder c
  · intro stopped
    obtain ⟨ended, empty⟩ := accounted.stopped (stage.mp stopped)
    rw [clients]
    refine ⟨?_, empty⟩
    rcases io with same | ⟨-, finished⟩
    · exact same.trans ended
    · exact finished

/-- Steps that move one phase, of a connection in the map to a live one. -/
theorem of_update (accounted : s.Accounted) (owned : t.Owned) (clients : t.clients = s.clients)
    (allocated : t.allocated = s.allocated) (freed : t.freed = s.freed) (notified : t.notified = s.notified)
    (io : t.io = s.io ∨ s.io = .idle ∧ t.io = .ended) (stage : t.stage = s.stage) {c : Conn} {phase : Phase}
    (moved : t.phase = Function.update s.phase c phase) (known : phase ≠ .fresh)
    (listed : s.clients.lookup c = none ∨ Phase.Live phase)
    (before : Phase.Live phase → s.phase c = .fresh ∨ Phase.Live (s.phase c)) : t.Accounted := by
  apply accounted.of_phase owned clients allocated freed notified io (by rw [stage])
  · intro d info present
    by_cases same : d = c
    · rw [moved, same, Function.update_self]
      rcases listed with absent | live
      · rw [same, absent] at present
        cases present
      · exact live
    · rw [moved, Function.update_of_ne same]
      exact (accounted.live d info present).1
  · intro d fresh
    by_cases same : d = c
    · rw [moved, same, Function.update_self] at fresh
      exact absurd fresh known
    · rwa [moved, Function.update_of_ne same] at fresh
  · intro d live
    by_cases same : d = c
    · rw [moved, same, Function.update_self] at live
      exact same ▸ before live
    · rw [moved, Function.update_of_ne same] at live
      exact .inr live

/-- `OnOpen` of a connection that is accepted. -/
theorem welcome (accounted : s.Accounted) {c : Conn} {ip : Bytes} (idle : s.io = .idle) (fresh : s.phase c = .fresh) :
    (s.welcome c ip).Accounted := by
  have absent := accounted.not_listed fresh
  have io : (s.welcome c ip).io = .notifying .clientConnected c ip := rfl
  have notified : (s.welcome c ip).notified = s.notified := rfl
  have told (d : Conn) : (s.welcome c ip).told d = s.told d ++ if d = c then [.clientConnected] else [] :=
    told_notifying idle notified io d
  have phase (d : Conn) : (s.welcome c ip).phase d = if d = c then .opened else s.phase d :=
    Function.update_apply s.phase c .opened d
  refine ⟨accounted.owned.welcome c ip, ?_, ?_, ?_, ?_, ?_, ?_⟩
  · intro a d allocated
    by_cases new : a < s.allocated.length
    · have old : s.allocated[a]? = some d := (List.getElem?_append_left new).symm.trans allocated
      rcases accounted.held a d old with freed | ⟨info, listed, address⟩
      · exact .inl freed
      · refine .inr ⟨info, lookup_insert_eq_some.mpr (.inr ⟨?_, listed⟩), address⟩
        rintro rfl
        cases listed.symm.trans absent
    · have split : (s.allocated ++ [c])[a]? = some d := allocated
      rw [List.getElem?_append_right (Nat.le_of_not_lt new), List.getElem?_singleton] at split
      split at split
      · next last =>
          cases split
          refine .inr ⟨_, lookup_insert_eq_some.mpr (.inl ⟨rfl, rfl⟩), ?_⟩
          dsimp only
          omega
      · cases split
  · intro d info listed
    rw [told, phase]
    rcases lookup_insert_eq_some.mp listed with ⟨rfl, -⟩ | ⟨apart, old⟩
    · rw [if_pos rfl, if_pos rfl, accounted.fresh d fresh]
      exact ⟨.inl rfl, rfl⟩
    · rw [if_neg apart, if_neg apart, List.append_nil]
      exact accounted.live d info old
  · intro d still
    rw [phase] at still
    split at still
    · cases still
    · next apart =>
        rw [told, if_neg apart, List.append_nil]
        exact accounted.fresh d still
  · intro d unlisted live running
    have apart : d ≠ c := by
      rintro rfl
      cases (AList.lookup_insert s.clients).symm.trans unlisted
    have before : s.clients.lookup d = none := (AList.lookup_insert_ne apart).symm.trans unlisted
    rw [phase, if_neg apart] at live
    rw [told, if_neg apart, List.append_nil]
    exact accounted.refused d before live running
  · intro d
    rw [told]
    by_cases same : d = c
    · rw [if_pos same, same, accounted.fresh c fresh]
      exact ⟨[.clientDisconnected], rfl⟩
    · rw [if_neg same, List.append_nil]
      exact accounted.inOrder d
  · intro stopped
    exact absurd stopped (accounted.not_stopped idle)

/-- The end of a connection in the map, with or without a notification. -/
theorem release (accounted : s.Accounted) {c : Conn} {info : ClientInfo} (idle : s.io = .idle)
    (listed : s.clients.lookup c = some info) {event : List ClientEvent}
    (said : event = [] ∨ event = [.clientDisconnected]) (owned : t.Owned)
    (clients : t.clients = s.clients.erase c) (allocated : t.allocated = s.allocated)
    (freed : t.freed = s.freed ++ [info.address]) (stage : t.stage = s.stage)
    (phase : t.phase = Function.update s.phase c .over)
    (told : ∀ d, t.told d = s.told d ++ if d = c then event else []) : t.Accounted := by
  have ended : t.phase c = .over := by rw [phase, Function.update_self]
  have others {d : Conn} (apart : d ≠ c) : t.phase d = s.phase d := by rw [phase, Function.update_of_ne apart]
  have silent {d : Conn} (apart : d ≠ c) : t.told d = s.told d := by rw [told, if_neg apart, List.append_nil]
  refine ⟨owned, ?_, ?_, ?_, ?_, ?_, ?_⟩
  · intro a d own
    rw [allocated] at own
    rw [freed, clients]
    rcases accounted.held a d own with gone | ⟨other, listed', address⟩
    · exact .inl (List.mem_append_left _ gone)
    · by_cases same : d = c
      · rw [same, listed] at listed'
        cases listed'
        exact .inl (List.mem_append_right _ (List.mem_singleton.mpr address.symm))
      · exact .inr ⟨other, lookup_erase_eq_some.mpr ⟨same, listed'⟩, address⟩
  · intro d other still
    rw [clients] at still
    obtain ⟨apart, listed'⟩ := lookup_erase_eq_some.mp still
    rw [others apart, silent apart]
    exact accounted.live d other listed'
  · intro d still
    have apart : d ≠ c := by
      rintro rfl
      cases ended.symm.trans still
    rw [silent apart]
    exact accounted.fresh d (others apart ▸ still)
  · intro d unlisted live running
    have apart : d ≠ c := by
      rintro rfl
      rw [ended] at live
      rcases live with other | other
      · cases other
      · cases other
    rw [clients, AList.lookup_erase_ne apart] at unlisted
    rw [others apart] at live
    rw [silent apart]
    exact accounted.refused d unlisted live (stage ▸ running)
  · intro d
    by_cases same : d = c
    · rw [told, if_pos same, same, (accounted.live c info listed).2]
      rcases said with rfl | rfl
      · exact ⟨[.clientDisconnected], rfl⟩
      · exact List.prefix_rfl
    · rw [silent same]
      exact accounted.inOrder d
  · intro stopped
    exact absurd (stage ▸ stopped) (accounted.not_stopped idle)

theorem clear (accounted : s.Accounted) (left : s.io = .idle ∨ s.io = .ended) : s.clearClients.Accounted := by
  obtain ⟨freed, -, allocated⟩ := releaseAll_books accounted.owned.addresses_nodup accounted.owned.unfreed
  obtain ⟨phase, -, -, notified⟩ := @releaseAll_keeps _ _ s (s.clients.entries.map Sigma.snd)
  have told (d : Conn) : s.clearClients.told d = s.told d := by
    have waiting : pending s.io = [] := by
      rcases left with idle | ended
      · rw [idle]
        rfl
      · rw [ended]
        rfl
    rw [Connections.told, Connections.told, waiting, ← notified]
    rfl
  refine ⟨accounted.owned.clear, ?_, ?_, ?_, ?_, ?_, ?_⟩
  · intro a c own
    rw [clearClients] at own ⊢
    rw [allocated] at own
    rw [freed, List.mem_append]
    rcases accounted.held a c own with gone | ⟨info, listed, address⟩
    · exact .inl (.inl gone)
    · refine .inl (.inr (List.mem_map.mpr ⟨info, List.mem_map.mpr ⟨⟨c, info⟩, ?_, rfl⟩, address⟩))
      exact AList.mem_lookup_iff.mp listed
  · intro c info listed
    cases listed.symm.trans (AList.lookup_empty c)
  · intro c fresh
    rw [told]
    exact accounted.fresh c (phase ▸ fresh)
  · intro c _ _ running
    exact absurd rfl running
  · intro c
    rw [told]
    exact accounted.inOrder c
  · intro _
    exact ⟨rfl, AList.lookup_empty⟩

end Accounted

/-! ### Orderly runs -/

/-- A notification drops nobody, and the connections that end were accepted. -/
def Orderly (s : Connections Conn ω) : Event Conn → Prop
  | .notify throws | .broadcast throws => ∀ c ∈ s.clients, throws c = false
  | .closed c => c ∈ s.clients
  | _ => True

theorem broadcast_eq_self {throws : Conn → Bool} (reached : ∀ c ∈ s.clients, throws c = false) :
    s.broadcastNotification throws = s := by
  have all : (s.clients.entries.filter fun entry => !throws entry.1) = s.clients.entries := by
    rw [List.filter_eq_self]
    intro entry member
    rw [Bool.not_eq_true']
    apply reached
    rw [← AList.lookup_isSome, Owned.lookup_of_mem member]
    rfl
  have same : (s.broadcastNotification throws).clients = s.clients := AList.ext all
  have only : s.broadcastNotification throws =
      { s with clients := (s.broadcastNotification throws).clients } := rfl
  rw [only, same]

theorem Accounted.step (accounted : s.Accounted) (orderly : s.Orderly e) (step : Step v s e t) : t.Accounted := by
  have owned : t.Owned := accounted.owned.step step
  cases step.move with
  | refused c found sending closing idle fresh refuses =>
      rw [refuse_eq] at owned ⊢
      refine accounted.of_update owned rfl rfl rfl rfl (.inl rfl) rfl rfl ?_
        (.inl (accounted.not_listed fresh)) (fun _ => .inl fresh)
      split
      · exact nofun
      · exact nofun
  | welcomed c found sending closing ip idle fresh allowed => exact accounted.welcome idle fresh
  | message c found isText payload sending closing idle opened =>
      obtain ⟨phase, io, same, moved, looped⟩ :=
        @onMessage_eq _ _ _ v s c found isText payload sending closing
      obtain ⟨misused, looked⟩ := @updateActivityTime_eq _ _ _ s c
      rw [looked] at same
      rw [same] at owned ⊢
      have left : io = s.io ∨ s.io = .idle ∧ io = .ended := looped.imp_right fun ended => ⟨idle, ended⟩
      rcases moved with kept | closed
      · have still : phase = Function.update s.phase c .opened := by
          rw [kept, ← opened, Function.update_eq_self]
        exact accounted.of_update owned rfl rfl rfl rfl left rfl still (by decide) (.inr (.inl rfl))
          (fun _ => .inr (.inl opened))
      · exact accounted.of_update owned rfl rfl rfl rfl left rfl closed (by decide) (.inr (.inr rfl))
          (fun _ => .inr (.inl opened))
  | closed c info idle live known =>
      have io : ({ (s.setPhase c .over).release info with
          clients := s.clients.erase c, io := .notifying .clientDisconnected c info.clientIP } :
          Connections Conn ω).io = .notifying .clientDisconnected c info.clientIP := rfl
      exact accounted.release idle known (.inr rfl) owned rfl rfl rfl rfl rfl (told_notifying idle rfl io)
  | closedUnknown c idle live unknown => exact absurd orderly (AList.lookup_eq_none.mp unknown)
  | failed c info idle live known =>
      refine accounted.release idle known (.inl rfl) owned rfl rfl rfl rfl rfl ?_
      intro d
      rw [ite_self, List.append_nil]
      rfl
  | failedUnknown c idle live unknown =>
      refine accounted.of_update owned rfl rfl rfl rfl (.inl rfl) rfl rfl (by decide) (.inl unknown) ?_
      rintro (other | other)
      · cases other
      · cases other
  | notify throws event c ip io =>
      rw [broadcast_eq_self orderly] at owned ⊢
      have told (d : Conn) : ({ s with notified := s.notified ++ [(event, c)], io := .idle } :
          Connections Conn ω).told d = s.told d := by
        rw [Connections.told, Connections.told, io]
        exact congrArg (about d) (List.append_nil _)
      refine ⟨owned, accounted.held, ?_, ?_, ?_, ?_, ?_⟩
      · intro d info listed
        rw [told]
        exact accounted.live d info listed
      · intro d fresh
        rw [told]
        exact accounted.fresh d fresh
      · intro d unlisted live running
        rw [told]
        exact accounted.refused d unlisted live running
      · intro d
        rw [told]
        exact accounted.inOrder d
      · intro stopped
        cases io.symm.trans (accounted.stopped stopped).1
  | broadcast throws =>
      rw [broadcast_eq_self orderly]
      exact accounted
  | stop throws online =>
      have phase (d : Conn) : ({ s.closeAllConnections throws with stage := .stopping } :
          Connections Conn ω).phase d =
            if d ∈ s.clients ∧ s.phase d = .opened ∧ throws d = false then .closing else s.phase d := rfl
      have stage : Stage.stopping = .stopped ↔ s.stage = .stopped := by
        rw [online]
        exact iff_of_false (by decide) (by decide)
      refine accounted.of_phase owned rfl rfl rfl rfl (.inl rfl) stage ?_ ?_ ?_
      · intro d info listed
        rw [phase]
        split
        · exact .inr rfl
        · exact (accounted.live d info listed).1
      · intro d fresh
        rw [phase] at fresh
        split at fresh
        · cases fresh
        · exact fresh
      · intro d live
        rw [phase] at live
        split at live
        · next closed => exact .inr (.inl closed.2.1)
        · exact .inr live
  | joined stopping left => exact accounted.clear left


/-! ### The books -/

/-- What is owed to the clients: an info is freed once, by the time its connection is closed or the server is
stopped, and not used after that; a disconnect is told once, after the connect. -/
structure Booked (s : Connections Conn ω) : Prop where
  once : s.freed.Nodup
  sound : s.misused = false
  settled : ∀ a c, s.allocated[a]? = some c → s.phase c = .over ∨ s.stage = .stopped → a ∈ s.freed
  inOrder : ∀ c, about c s.notified <+: [.clientConnected, .clientDisconnected]

theorem Accounted.booked (accounted : s.Accounted) : s.Booked where
  once := accounted.owned.once
  sound := accounted.owned.sound
  settled a c allocated finished := by
    rcases accounted.held a c allocated with freed | ⟨info, listed, -⟩
    · exact freed
    · rcases finished with ended | stopped
      · rcases (accounted.live c info listed).1 with other | other
        · cases ended.symm.trans other
        · cases ended.symm.trans other
      · cases listed.symm.trans ((accounted.stopped stopped).2 c)
  inOrder c := by
    have all := accounted.inOrder c
    rw [told, about_append] at all
    exact (List.prefix_append _ _).trans all

/-- An info that nobody will free. -/
structure Leaked (a : Nat) (s : Connections Conn ω) : Prop where
  known : a < s.allocated.length
  unfreed : a ∉ s.freed
  unlisted : ∀ c info, s.clients.lookup c = some info → info.address ≠ a

namespace Leaked
variable {a : Nat}

theorem of_eq (leaked : s.Leaked a) (clients : t.clients = s.clients) (allocated : t.allocated = s.allocated)
    (freed : t.freed = s.freed) : t.Leaked a where
  known := allocated ▸ leaked.known
  unfreed := freed ▸ leaked.unfreed
  unlisted := clients ▸ leaked.unlisted

theorem release (leaked : s.Leaked a) {c : Conn} {info : ClientInfo} (listed : s.clients.lookup c = some info)
    (clients : t.clients = s.clients.erase c) (allocated : t.allocated = s.allocated)
    (freed : t.freed = s.freed ++ [info.address]) : t.Leaked a where
  known := allocated ▸ leaked.known
  unfreed := by
    rw [freed, List.mem_append, List.mem_singleton]
    rintro (before | same)
    · exact leaked.unfreed before
    · exact leaked.unlisted c info listed same.symm
  unlisted d other still := by
    rw [clients] at still
    exact leaked.unlisted d other (lookup_erase_eq_some.mp still).2

theorem broadcast (leaked : s.Leaked a) (throws : Conn → Bool) : (s.broadcastNotification throws).Leaked a where
  known := leaked.known
  unfreed := leaked.unfreed
  unlisted c info listed := leaked.unlisted c info (lookup_broadcast_eq_some.mp listed).2

/-- Only what is in the map is ever freed. -/
theorem step (leaked : s.Leaked a) (owned : s.Owned) (step : Step v s e t) : t.Leaked a := by
  cases step.move with
  | refused c found sending closing idle fresh refuses =>
      rw [refuse_eq]
      exact leaked.of_eq rfl rfl rfl
  | welcomed c found sending closing ip idle fresh allowed =>
      refine ⟨?_, leaked.unfreed, ?_⟩
      · rw [welcome, List.length_append]
        exact Nat.lt_add_right _ leaked.known
      · intro d info listed
        rcases lookup_insert_eq_some.mp listed with ⟨-, rfl⟩ | ⟨-, old⟩
        · exact (Nat.ne_of_lt leaked.known).symm
        · exact leaked.unlisted d info old
  | message c found isText payload sending closing idle opened =>
      obtain ⟨phase, io, same, -⟩ :=
        @onMessage_eq _ _ _ v s c found isText payload sending closing
      obtain ⟨misused, looked⟩ := @updateActivityTime_eq _ _ _ s c
      rw [same, looked]
      exact leaked.of_eq rfl rfl rfl
  | closed c info idle live known => exact leaked.release known rfl rfl rfl
  | closedUnknown c idle live unknown => exact leaked.of_eq rfl rfl rfl
  | failed c info idle live known => exact leaked.release known rfl rfl rfl
  | failedUnknown c idle live unknown => exact leaked.of_eq rfl rfl rfl
  | notify throws event c ip io => exact (leaked.broadcast throws).of_eq rfl rfl rfl
  | broadcast throws => exact leaked.broadcast throws
  | stop throws online => exact leaked.of_eq rfl rfl rfl
  | joined stopping left =>
      obtain ⟨freed, -, allocated⟩ := releaseAll_books owned.addresses_nodup owned.unfreed
      refine ⟨?_, ?_, ?_⟩
      · rw [clearClients, allocated]
        exact leaked.known
      · rw [clearClients, freed, List.mem_append]
        rintro (before | now)
        · exact leaked.unfreed before
        · obtain ⟨info, member, same⟩ := List.mem_map.mp now
          obtain ⟨entry, listed, rfl⟩ := List.mem_map.mp member
          exact leaked.unlisted entry.1 entry.2 (Owned.lookup_of_mem listed) same
      · intro c info listed
        cases listed.symm.trans (AList.lookup_empty c)

end Leaked

theorem Owned.leaked (owned : s.Owned) {c : Conn} {info : ClientInfo} (listed : s.clients.lookup c = some info)
    {throws : Conn → Bool} (dropped : throws c = true) : (s.broadcastNotification throws).Leaked info.address where
  known := (List.getElem?_eq_some_iff.mp (owned.owner c info listed).1).1
  unfreed := (owned.owner c info listed).2
  unlisted d other still := by
    obtain ⟨kept, listed'⟩ := lookup_broadcast_eq_some.mp still
    intro same
    have own := (owned.owner d other listed').1
    rw [same, (owned.owner c info listed).1] at own
    cases own
    rw [dropped] at kept
    cases kept

/-- Wherever it is, the server can be stopped. -/
theorem exists_stopped (v : SocketService Conn ω) (running : s.stage ≠ .stopped) :
    ∃ es t, Run (Step v) s es t ∧ t.stage = .stopped := by
  have quiet {s : Connections Conn ω} (left : s.io = .idle ∨ s.io = .ended) (running : s.stage ≠ .stopped) :
      ∃ es t, Run (Step v) s es t ∧ t.stage = .stopped := by
    have join {s : Connections Conn ω} (stopping : s.stage = .stopping) (left : s.io = .idle ∨ s.io = .ended) :
        Step v s .joined s.clearClients := if_pos ⟨stopping, left⟩
    cases stage : s.stage with
    | online =>
        have stop : Step v s (.stop fun _ => true)
            { s.closeAllConnections fun _ => true with stage := .stopping } := if_pos stage
        exact ⟨_, _, .cons stop (.cons (join rfl left) (.nil _)), rfl⟩
    | stopping => exact ⟨_, _, .cons (join stage left) (.nil _), rfl⟩
    | stopped => exact absurd stage running
  cases io : s.io with
  | idle => exact quiet (.inl io) running
  | ended => exact quiet (.inr io) running
  | notifying event c ip =>
      have told : Step v s (.notify fun _ => false) { s.broadcastNotification fun _ => false with
          notified := s.notified ++ [(event, c)], io := .idle } := by
        rw [Step, Connections.step, io]
      obtain ⟨es, t, run, stopped⟩ := quiet (s := { s.broadcastNotification fun _ => false with
        notified := s.notified ++ [(event, c)], io := .idle }) (.inl rfl) running
      exact ⟨_, t, .cons told run, stopped⟩

theorem Leaked.unbooked {a : Nat} (v : SocketService Conn ω) (leaked : s.Leaked a) (owned : s.Owned)
    (running : s.stage ≠ .stopped) : ∃ es t, Run (Step v) s es t ∧ ¬ t.Booked := by
  obtain ⟨es, t, run, stopped⟩ := exists_stopped v running
  have keeps (s : Connections Conn ω) (e : Event Conn) (t : Connections Conn ω) (both : s.Leaked a ∧ s.Owned)
      (step : Step v s e t) : t.Leaked a ∧ t.Owned := ⟨both.1.step both.2 step, both.2.step step⟩
  obtain ⟨still, -⟩ := run.invariant keeps ⟨leaked, owned⟩
  refine ⟨es, t, run, ?_⟩
  intro booked
  exact still.unfreed (booked.settled a _ (List.getElem?_eq_getElem still.known) (.inr stopped))

/-- In every run whose steps are orderly the books are kept; a step that is not leads to a state in which they are
not. -/
theorem books_kept (v : SocketService Conn ω) {s : Connections Conn ω} (started : s.Started) :
    ∀ es t, Run (Guarded Orderly (Step v)) s es t → t.Booked ∧
      ∀ e u, Step v t e u → ¬ t.Orderly e → ∃ fs w, Run (Step v) u fs w ∧ ¬ w.Booked := by
  intro es t run
  have keeps (s : Connections Conn ω) (e : Event Conn) (t : Connections Conn ω) (accounted : s.Accounted)
      (step : Guarded Orderly (Step v) s e t) : t.Accounted := accounted.step step.1 step.2
  have accounted : t.Accounted := run.invariant keeps started.accounted
  refine ⟨accounted.booked, ?_⟩
  have dropping {throws : Conn → Bool} (drops : ¬ ∀ c ∈ t.clients, throws c = false) :
      t.stage ≠ .stopped ∧ ∃ a, (t.broadcastNotification throws).Leaked a := by
    simp only [not_forall, Bool.not_eq_false] at drops
    obtain ⟨c, member, dropped⟩ := drops
    obtain ⟨info, listed⟩ := Option.isSome_iff_exists.mp (AList.lookup_isSome.mpr member)
    refine ⟨?_, info.address, accounted.owned.leaked listed dropped⟩
    intro stopped
    cases listed.symm.trans ((accounted.stopped stopped).2 c)
  intro e u step disorder
  have owned : u.Owned := accounted.owned.step step
  cases step.move with
  | closedUnknown c idle live unknown =>
      -- Nothing was said of the connection, and now its end is.
      have silent := accounted.refused c unknown live (accounted.not_stopped idle)
      rw [told, about_append] at silent
      have none_ := (List.append_eq_nil_iff.mp silent).1
      refine ⟨[.notify fun _ => false], _, .cons rfl (.nil _), ?_⟩
      intro booked
      have order : about c (t.notified ++ [(.clientDisconnected, c)]) <+:
          [.clientConnected, .clientDisconnected] := booked.inOrder c
      rw [about_append, none_, about_single, if_pos rfl] at order
      revert order
      decide
  | notify throws event c ip io =>
      obtain ⟨running, a, leaked⟩ := dropping disorder
      refine Leaked.unbooked v (a := a) ?_ owned running
      exact leaked.of_eq rfl rfl rfl
  | broadcast throws =>
      obtain ⟨running, a, leaked⟩ := dropping disorder
      exact leaked.unbooked v owned running
  | closed c info idle live known =>
      have member : c ∈ t.clients := by
        rw [← AList.lookup_isSome, known]
        rfl
      exact absurd member disorder
  | _ => exact absurd trivial disorder

/-- Peers of a server that demands no token. -/
def openService : SocketService Bool Unit where
  env := plainEnvironment
  parse := parseRequest "device.getControllers" "1" (.unsigned 1)
  requireAuth := false
  authTokens := []
  peers _ := ⟨ascii "10.0.0.7:50000", ascii "ws://10.0.0.1:6743/"⟩

/-- A client comes and goes, and another one is dropped. -/
theorem books_kept_fresh :
    ∃ t, Run (Guarded Orderly (Step openService)) (fresh Bool) [.opened true true .sent .sent,
        .notify fun _ => false, .closed true, .notify fun _ => false, .opened false true .sent .sent] t ∧
      t.Booked ∧ ∃ u, Step openService t (.notify fun c => !c) u ∧
        ∃ fs w, Run (Step openService) u fs w ∧ ¬ w.Booked := by
  have run : Run (Guarded Orderly (Step openService)) (fresh Bool) [.opened true true .sent .sent,
      .notify fun _ => false, .closed true, .notify fun _ => false, .opened false true .sent .sent] _ :=
    .cons ⟨trivial, rfl⟩ (.cons ⟨fun _ _ => rfl, rfl⟩ (.cons ⟨AList.lookup_isSome.mp rfl, rfl⟩
      (.cons ⟨fun _ _ => rfl, rfl⟩ (.cons ⟨trivial, rfl⟩ (.nil _)))))
  obtain ⟨booked, next⟩ := books_kept openService (started_fresh Bool) _ _ run
  refine ⟨_, run, booked, _, rfl, next (.notify fun c => !c) _ rfl ?_⟩
  intro orderly
  have reached : (!false) = false := orderly false (AList.lookup_isSome.mp rfl)
  cases reached

/-- The second of two clients is dropped by a notification that does not reach it, and then closed; the other
peer is refused, and closed. -/
theorem books_lost :
    (∃ t, Run (Step openService) (fresh Bool) [.opened true true .sent .sent, .notify fun _ => false,
        .opened false true .sent .sent, .notify fun _ => false, .broadcast fun c => !c, .closed false] t ∧
      ¬ t.Booked) ∧
    ∃ t, Run (Step guardedService) (fresh Unit)
        [.opened () true .sent .sent, .closed (), .notify fun _ => false] t ∧ ¬ t.Booked := by
  refine ⟨⟨_, .cons rfl (.cons rfl (.cons rfl (.cons rfl (.cons rfl (.cons rfl (.nil _)))))), ?_⟩,
    _, .cons rfl (.cons rfl (.cons rfl (.nil _))), ?_⟩
  · intro booked
    have freed := booked.settled 1 false rfl (.inl rfl)
    revert freed
    decide
  · intro booked
    have order := booked.inOrder ()
    revert order
    decide

end Connections
end SyncRGB
