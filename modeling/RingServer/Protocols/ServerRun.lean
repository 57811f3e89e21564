import RingServer.Protocols.WriteAccess
import RingServer.Ring.WriteSize

set_option autoImplicit false

namespace RingServer

open Net Config

structure Member where
  addr : IPAddress
  thread : ClientThread

structure Hub where
  ring : RingParams
  members : List Member

inductive HubStep where
  | connects (addr : IPAddress) (socket : List Receipt)
  | receives (member : Nat) (pass : Pass)
  | streams (member : Nat) (pass : Pass)

structure Submission where
  author : Nat
  request : Request

def limitOf (engine : Engine) (config : ServerConfig) (addr : IPAddress) : Option (Text → Bool) :=
  (RingBuffer.updatePattern engine (((findMatchingIP (config.ips .limitIps) addr).bind (·.limitStr)).getD [])).2

section

variable (engine : Engine) (window : UInt32 → TimeWinLimit) (config : ServerConfig) (protocols : Net.ListenProtocols)
  (recvBufferSize fuel : Nat)

def Hub.turn (hub : Hub) (i : Nat) (step : ThreadStep) : Option Hub :=
  hub.members[i]?.bind fun member =>
    (threadStep protocols recvBufferSize fuel hub.ring member.thread step).map fun result =>
      ⟨result.1, hub.members.set i { member with thread := result.2 }⟩

-- A client is admitted when the address may connect and its LimitStr compiles.
def hubStep (hub : Hub) : HubStep → Option Hub
  | .connects addr socket =>
      if mayConnect config addr then
        match connect engine window config addr with
        | none => some hub
        | some client => some { hub with members := hub.members ++ [⟨addr, newThread client socket⟩] }
      else some hub
  | .receives i pass => hub.turn protocols recvBufferSize fuel i (.receives pass)
  | .streams i pass => hub.turn protocols recvBufferSize fuel i (.streams pass)

def hubRun (hub : Hub) : List HubStep → Option Hub
  | [] => some hub
  | step :: rest => (hubStep engine window config protocols recvBufferSize fuel hub step).bind fun next => hubRun next rest

end

inductive Effect (perm : Bool) (limit : Option (Text → Bool)) (type : Option ClientType) (ring : RingParams) : RingParams → Prop
  | quiet : Effect perm limit type ring ring
  | wrote (request : Request) (next : RingParams) (stored : RingPacket)
      (wrote : writeRequest ring request = some (0, next, stored)) (sized : request.dataSize = request.packet.dataSize)
      (entitled : type = some .dataLink ∧ perm = true ∧ limit.all (· request.packet.streamId) = true ∨
        type = some .http ∧ request.packet.streamId = "HTTP".toList) : Effect perm limit type ring next

section

variable (protocols : Net.ListenProtocols) (recvBufferSize fuel : Nat) (perm : Bool) (limit : Option (Text → Bool))

structure Acts (ring : RingParams) (thread : ClientThread) (result : RingParams × ClientThread) : Prop where
  effect : Effect perm limit result.2.type ring result.1
  granted : Granted perm limit result.2
  type : ∀ type, thread.type = some type → result.2.type = some type

theorem does_effect (clock : NsTime) (ring : RingParams) (client : ClientInfo) (perms : client.writePerm = perm)
    (limits : client.reader.limit = limit) (received : Option (List UInt8)) (outcome : DataLink.Outcome)
    (does : DataLink.Does clock ring client received outcome) :
    Effect perm limit (some .dataLink) ring outcome.ring ∧ outcome.client.writePerm = perm ∧ outcome.client.reader.limit = limit := by
  cases does with
  | moves moves =>
      refine ⟨?_, moves.writePerm.trans perms, moves.limit.trans limits⟩
      rw [moves.ring]
      exact .quiet
  | writes packet stored db payload command allowed asks wrote kept sent =>
      have accepted := asks.limit
      rw [limits] at accepted
      rw [kept]
      exact ⟨.wrote ⟨clock, packet, db, packet.dataSize⟩ _ stored wrote rfl (.inl ⟨rfl, perms.symm.trans allowed, accepted⟩), perms, limits⟩

theorem dispatch_data_link_acts (pass : Pass) (ring : RingParams) (thread : ClientThread) (header : List UInt8)
    (type : thread.type = some .dataLink) (granted : Granted perm limit thread) (result : RingParams × ClientThread)
    (ran : dispatchDataLink fuel pass ring thread header = some result) : Acts perm limit ring thread result := by
  obtain ⟨perms, limits⟩ := granted (by rw [type]; exact fun same => nomatch same)
  have idle (client : ClientInfo) (same : client.writePerm = perm ∧ client.reader.limit = limit) (conn : Connection) (running : Bool) :
      Acts perm limit ring thread (ring, ⟨thread.type, conn, client, thread.ext, running⟩) :=
    ⟨.quiet, fun _ => same, fun _ known => known⟩
  have command (received : Option (List UInt8)) (outcome : DataLink.Outcome) (conn : Connection)
      (does : DataLink.Does (pass.clock 0) ring (takesCommand header thread.client) received outcome) :
      Acts perm limit ring thread (outcome.ring, ⟨thread.type, conn, outcome.client, thread.ext, outcome.code = 0⟩) := by
    have done := does_effect perm limit (pass.clock 0) ring (takesCommand header thread.client) perms limits received outcome does
    refine ⟨?_, fun _ => done.2, fun _ known => known⟩
    show Effect perm limit thread.type ring outcome.ring
    rw [type]
    exact done.1
  have does := DataLink.handle_command_does pass.around.engine fuel (pass.clock 0) ring (takesCommand header thread.client)
  rw [dispatchDataLink] at ran
  cases handled : DataLink.handleCommand pass.around.engine fuel (pass.clock 0) ring (takesCommand header thread.client) with
  | throws =>
      simp only [handled, Option.some.injEq] at ran
      rw [← ran]
      exact idle (takesCommand header thread.client) ⟨perms, limits⟩ _ _
  | returns outcome =>
      rw [handled] at does
      simp only [handled, Option.some.injEq] at ran
      rw [← ran]
      exact command none outcome _ does
  | receives size next lost =>
      rw [handled] at does
      simp only [handled, Option.map_eq_some_iff] at ran
      obtain ⟨⟨payload, conn⟩, received, ran⟩ := ran
      rw [← ran]
      cases payload with
      | none => exact command none lost _ does.1
      | some payload =>
          dsimp only
          cases goesOn : next payload with
          | none => exact idle (takesCommand header thread.client) ⟨perms, limits⟩ _ _
          | some outcome => exact command (some payload) outcome _ (does.2 payload outcome (recv_data_length _ _ _ _ received) goesOn)

theorem dispatch_line_acts (pass : Pass) (ring : RingParams) (thread : ClientThread) (nread : Nat) (conn : Connection)
    (lines : thread.type = some .http ∨ thread.type = some .seedLink) (granted : Granted perm limit thread) :
    Acts perm limit ring thread (dispatchLine fuel pass ring thread nread conn) := by
  rw [dispatchLine]
  dsimp only
  by_cases http : thread.type = some .http
  · rw [if_pos http]
    cases ran : Http.handleRequest pass.web pass.clock ring thread.client.reader (conn.recvBuffer.set nread 0) with
    | none => exact ⟨.quiet, granted, fun _ known => known⟩
    | some outcome =>
        refine ⟨?_, granted, fun _ known => known⟩
        rcases handle_request_ring pass.web pass.clock ring _ _ outcome ran with same | ⟨posts, packet, data, stored, wrote, isHttp⟩
        · rw [Option.map_some, Option.getD_some, same]
          exact .quiet
        · exact .wrote ⟨_, packet, data, packet.dataSize⟩ _ stored wrote rfl (.inr ⟨http, isHttp⟩)
  · have seedLink : thread.type = some .seedLink := lines.resolve_left http
    rw [if_neg http]
    cases SeedLink.handleCommand pass.around fuel ring ⟨thread.client, thread.ext⟩ ((conn.recvBuffer.set nread 0).take nread) with
    | none => exact ⟨.quiet, granted, fun _ known => known⟩
    | some outcome => exact ⟨.quiet, fun other => absurd seedLink other, fun _ known => known⟩

theorem streams_acts (pass : Pass) (ring : RingParams) (thread : ClientThread) (granted : Granted perm limit thread) :
    Acts perm limit ring thread (streams fuel pass ring thread) := by
  rw [streams]
  by_cases streaming : thread.client.state = .stream
  · rw [if_pos streaming]
    cases typeIs : thread.type with
    | none => exact ⟨.quiet, granted, fun _ known => known⟩
    | some type =>
        cases type with
        | http => exact ⟨.quiet, granted, fun _ known => known⟩
        | dataLink =>
            obtain ⟨perms, limits⟩ := granted (by rw [typeIs]; exact ne_of_beq_false rfl)
            dsimp only
            cases ran : DataLink.streamPackets fuel ring thread.client pass.cachedPacket with
            | none => exact ⟨.quiet, granted, fun _ known => known⟩
            | some outcome =>
                have moves := DataLink.stream_packets_moves fuel ring thread.client pass.cachedPacket outcome ran
                refine ⟨?_, fun _ => ⟨moves.writePerm.trans perms, moves.limit.trans limits⟩, fun _ known => typeIs.symm.trans known⟩
                rw [Option.map_some, Option.getD_some, moves.ring]
                exact .quiet
        | seedLink =>
            dsimp only
            cases SeedLink.streamPackets pass.around fuel ring ⟨thread.client, thread.ext⟩ with
            | none => exact ⟨.quiet, granted, fun _ known => known⟩
            | some outcome => exact ⟨.quiet, fun other => absurd rfl other, fun _ known => typeIs.symm.trans known⟩
  · rw [if_neg streaming]
    exact ⟨.quiet, granted, fun _ known => known⟩

theorem determine_type (arrived : Nat) (thread : ClientThread) (type : ClientType) (known : thread.type = some type) :
    determine protocols arrived thread = thread := by
  rw [determine, known]

theorem receives_acts (pass : Pass) (ring : RingParams) (thread : ClientThread) (granted : Granted perm limit thread)
    (result : RingParams × ClientThread) (ran : receives protocols recvBufferSize fuel pass ring thread = some result) :
    Acts perm limit ring thread result := by
  have determined := determine_granted protocols perm limit pass.arrived thread granted
  -- The type that is determined is the one that was known, if it was.
  have since (acts : Acts perm limit ring (determine protocols pass.arrived thread) result) : Acts perm limit ring thread result :=
    ⟨acts.effect, acts.granted, fun type known => acts.type type (by rw [determine_type protocols _ _ _ known]; exact known)⟩
  rw [receives] at ran
  by_cases running : (determine protocols pass.arrived thread).running = true
  · rw [if_pos running, Option.bind_eq_some_iff] at ran
    obtain ⟨received, got, handed⟩ := ran
    have types := client_recv_type recvBufferSize _ received got
    apply since
    cases received with
    | nothing conn =>
        cases handed
        exact ⟨.quiet, determined, fun _ known => known⟩
    | closed =>
        cases handed
        exact ⟨.quiet, determined, fun _ known => known⟩
    | command header conn =>
        have acts := dispatch_data_link_acts fuel perm limit pass ring { determine protocols pass.arrived thread with conn := conn } header
          types determined result handed
        exact ⟨acts.effect, acts.granted, acts.type⟩
    | line nread conn =>
        cases handed
        exact dispatch_line_acts fuel perm limit pass ring _ nread conn types determined
  · rw [if_neg running] at ran
    cases ran
    exact since ⟨.quiet, determined, fun _ known => known⟩

theorem thread_step_acts (ring : RingParams) (thread : ClientThread) (step : ThreadStep) (own : ∀ change, step ≠ .others change)
    (granted : Granted perm limit thread) (result : RingParams × ClientThread)
    (ran : threadStep protocols recvBufferSize fuel ring thread step = some result) : Acts perm limit ring thread result := by
  have rests : Acts perm limit ring thread (ring, thread) := ⟨.quiet, granted, fun _ known => known⟩
  cases step with
  | receives pass =>
      rw [threadStep] at ran
      by_cases running : thread.running = true
      · rw [if_pos running] at ran
        exact receives_acts protocols recvBufferSize fuel perm limit pass ring thread granted result ran
      · rw [if_neg running] at ran
        cases ran
        exact rests
  | streams pass =>
      rw [threadStep] at ran
      obtain rfl := Option.some.inj ran
      by_cases running : thread.running = true
      · rw [if_pos running]
        exact streams_acts fuel perm limit pass ring thread granted
      · rw [if_neg running]
        exact rests
  | others change => exact absurd rfl (own change)

end

section

variable (engine : Engine) (window : UInt32 → TimeWinLimit) (config : ServerConfig) (protocols : Net.ListenProtocols)
  (recvBufferSize fuel : Nat)

-- A DataLink client whose address has write permission wrote a stream that the limit of the
-- address accepts, or an HTTP client posted.
def Entitled (hub : Hub) (submission : Submission) : Prop :=
  ∃ member, hub.members[submission.author]? = some member ∧
    (member.thread.type = some .dataLink ∧ isWriteIP config member.addr = true ∧
        (limitOf engine config member.addr).all (· submission.request.packet.streamId) = true ∨
      member.thread.type = some .http ∧ submission.request.packet.streamId = "HTTP".toList)

-- The ring holds what it held before the clients came and then what was submitted, in the
-- order of the submissions, and nothing else.
structure Audited (g : Geometry) (start : Journal) (hub : Hub) (log : List Submission) (journal : Journal) : Prop where
  keeps : Keeps g hub.ring journal
  flux : hub.ring.fluxFlag = 0
  written : journal.written = start.written + log.length
  old : ∀ i, i < start.written → journal.entry i = start.entry i
  submitted : ∀ (n : Nat) submission, log[n]? = some submission →
    WrittenAs submission.request (journal.packet (start.written + n)) ∧
    (journal.entry (start.written + n)).body = slotBody g.slot submission.request.packetData submission.request.packet.dataSize
  entitled : ∀ submission ∈ log, Entitled engine config hub submission
  rights : ∀ member ∈ hub.members, Granted (isWriteIP config member.addr) (limitOf engine config member.addr) member.thread

def Goes (hub hub' : Hub) : Prop :=
  ∀ (i : Nat) member, hub.members[i]? = some member → ∃ member', hub'.members[i]? = some member' ∧ member'.addr = member.addr ∧
    ∀ type, member.thread.type = some type → member'.thread.type = some type

theorem entitled_goes (hub hub' : Hub) (goes : Goes hub hub') (submission : Submission) (entitled : Entitled engine config hub submission) :
    Entitled engine config hub' submission := by
  obtain ⟨member, isMember, holds⟩ := entitled
  obtain ⟨member', isMember', addr, type⟩ := goes _ member isMember
  refine ⟨member', isMember', ?_⟩
  rw [addr]
  rcases holds with ⟨dataLink, rest⟩ | ⟨http, rest⟩
  · exact .inl ⟨type _ dataLink, rest⟩
  · exact .inr ⟨type _ http, rest⟩

theorem connect_rights (addr : IPAddress) (client : ClientInfo) (connected : connect engine window config addr = some client)
    (socket : List Receipt) : Granted (isWriteIP config addr) (limitOf engine config addr) (newThread client socket) := by
  rw [connect] at connected
  split at connected
  · cases connected
    exact fun _ => ⟨rfl, rfl⟩
  · cases connected

theorem audited_connects (g : Geometry) (start : Journal) (hub : Hub) (log : List Submission) (journal : Journal)
    (audited : Audited engine config g start hub log journal) (addr : IPAddress) (socket : List Receipt) (next : Hub)
    (ran : hubStep engine window config protocols recvBufferSize fuel hub (.connects addr socket) = some next) :
    Audited engine config g start next log journal := by
  rw [hubStep] at ran
  by_cases may : mayConnect config addr = true
  · rw [if_pos may] at ran
    cases connected : connect engine window config addr with
    | none =>
        rw [connected] at ran
        cases ran
        exact audited
    | some client =>
        rw [connected] at ran
        cases ran
        have goes : Goes hub ⟨hub.ring, hub.members ++ [⟨addr, newThread client socket⟩]⟩ := fun i member isMember =>
          ⟨member, by rw [List.getElem?_append_left (List.getElem?_eq_some_iff.mp isMember).1]; exact isMember, rfl, fun _ known => known⟩
        refine ⟨audited.keeps, audited.flux, audited.written, audited.old, audited.submitted,
          fun submission logged => entitled_goes engine config hub _ goes submission (audited.entitled submission logged), ?_⟩
        intro member isMember
        rcases List.mem_append.mp isMember with old | new
        · exact audited.rights member old
        · rw [List.mem_singleton.mp new]
          exact connect_rights engine window config addr client connected socket
  · rw [if_neg may] at ran
    cases ran
    exact audited

theorem wrote_records (g : Geometry) (ring next : RingParams) (journal : Journal) (keeps : Keeps g ring journal) (request : Request)
    (stored : RingPacket) (wrote : writeRequest ring request = some (0, next, stored)) :
    Keeps g next (journal.record g request) ∧ next.fluxFlag = 0 := by
  by_cases passes : 112 + request.dataSize > ring.pktSize
  · rw [write_refused ring request passes] at wrote
    cases wrote
  have flux := (write_passes ring next request 0 stored passes wrote).2
  by_cases array : request.dataSize.toNat < 2 ^ 31
  · obtain ⟨ring', written, -, kept⟩ := write_keeps g ring journal keeps request ⟨passes, array⟩
    rw [written] at wrote
    cases wrote
    exact ⟨kept, flux⟩
  · rw [write_throws ring request passes (Nat.not_lt.mp array)] at wrote
    cases wrote

theorem audited_turn (g : Geometry) (start : Journal) (hub : Hub) (log : List Submission) (journal : Journal)
    (audited : Audited engine config g start hub log journal) (i : Nat) (step : ThreadStep) (own : ∀ change, step ≠ .others change) (next : Hub)
    (ran : hub.turn protocols recvBufferSize fuel i step = some next) :
    ∃ new journal', new.length ≤ 1 ∧ Audited engine config g start next (log ++ new) journal' := by
  rw [Hub.turn, Option.bind_eq_some_iff] at ran
  obtain ⟨member, isMember, ran⟩ := ran
  obtain ⟨result, stepped, rfl⟩ := Option.map_eq_some_iff.mp ran
  have inside := (List.getElem?_eq_some_iff.mp isMember).1
  have acts := thread_step_acts protocols recvBufferSize fuel _ _ hub.ring member.thread step own
    (audited.rights member (List.mem_of_getElem? isMember)) result stepped
  have here : (hub.members.set i { member with thread := result.2 })[i]? = some { member with thread := result.2 } :=
    List.getElem?_set_self inside
  have goes : Goes hub ⟨result.1, hub.members.set i { member with thread := result.2 }⟩ := by
    intro j other isOther
    by_cases same : i = j
    · subst same
      obtain rfl := Option.some.inj (isMember.symm.trans isOther)
      exact ⟨_, here, rfl, acts.type⟩
    · exact ⟨other, by rw [List.getElem?_set_ne same]; exact isOther, rfl, fun _ known => known⟩
  have rights : ∀ other ∈ hub.members.set i { member with thread := result.2 },
      Granted (isWriteIP config other.addr) (limitOf engine config other.addr) other.thread := by
    intro other isOther
    rcases List.mem_or_eq_of_mem_set isOther with old | new
    · exact audited.rights other old
    · rw [new]
      exact acts.granted
  have entitled (submission : Submission) (logged : submission ∈ log) :
      Entitled engine config ⟨result.1, hub.members.set i { member with thread := result.2 }⟩ submission :=
    entitled_goes engine config hub _ goes submission (audited.entitled submission logged)
  have effect := acts.effect
  generalize isRing : result.1 = ring at effect
  cases effect with
  | quiet =>
      refine ⟨[], journal, Nat.zero_le 1, ?_⟩
      rw [List.append_nil]
      rw [isRing] at entitled
      exact ⟨audited.keeps, audited.flux, audited.written, audited.old, audited.submitted, entitled, rights⟩
  | wrote request _ stored wrote sized allowed =>
      obtain ⟨kept, flux⟩ := wrote_records g hub.ring ring journal audited.keeps request stored wrote
      have count : journal.written = start.written + log.length := audited.written
      refine ⟨[⟨i, request⟩], journal.record g request, Nat.le_refl 1, kept, flux, ?_, ?_, ?_, ?_, rights⟩
      · rw [List.length_append, List.length_singleton, ← Nat.add_assoc, ← count]
        rfl
      · intro n before
        rw [Journal.record, journal.append_entry_old _ n (by omega)]
        exact audited.old n before
      · intro n submission isLogged
        by_cases old : n < log.length
        · rw [List.getElem?_append_left old] at isLogged
          have before := audited.submitted n submission isLogged
          rw [Journal.record, journal.append_packet_old _ _ (by omega), journal.append_entry_old _ _ (by omega)]
          exact before
        · have below := (List.getElem?_eq_some_iff.mp isLogged).1
          rw [List.length_append, List.length_singleton] at below
          have last : n = log.length := by omega
          rw [last, List.getElem?_concat_length] at isLogged
          obtain rfl := Option.some.inj isLogged
          rw [last, ← count, Journal.record, journal.append_packet_new, journal.append_entry_new]
          exact ⟨stamp_written_as g journal request, by rw [← sized]⟩
      · intro submission logged
        rcases List.mem_append.mp logged with old | new
        · rw [isRing] at entitled
          exact entitled submission old
        · rw [List.mem_singleton.mp new]
          refine ⟨_, here, ?_⟩
          rcases allowed with ⟨dataLink, perm, accepted⟩ | http
          · exact .inl ⟨dataLink, perm, accepted⟩
          · exact .inr http

theorem audited_step (g : Geometry) (start : Journal) (hub : Hub) (log : List Submission) (journal : Journal)
    (audited : Audited engine config g start hub log journal) (step : HubStep) (next : Hub)
    (ran : hubStep engine window config protocols recvBufferSize fuel hub step = some next) :
    ∃ new journal', new.length ≤ 1 ∧ Audited engine config g start next (log ++ new) journal' := by
  cases step with
  | connects addr socket =>
      refine ⟨[], journal, Nat.zero_le 1, ?_⟩
      rw [List.append_nil]
      exact audited_connects engine window config protocols recvBufferSize fuel g start hub log journal audited addr socket next ran
  | receives i pass =>
      exact audited_turn engine config protocols recvBufferSize fuel g start hub log journal audited i (.receives pass)
        (fun _ => ThreadStep.noConfusion) next ran
  | streams i pass =>
      exact audited_turn engine config protocols recvBufferSize fuel g start hub log journal audited i (.streams pass)
        (fun _ => ThreadStep.noConfusion) next ran

theorem audited_run (g : Geometry) (start : Journal) (steps : List HubStep) (hub : Hub) (log : List Submission) (journal : Journal)
    (audited : Audited engine config g start hub log journal) (final : Hub)
    (ran : hubRun engine window config protocols recvBufferSize fuel hub steps = some final) :
    ∃ new journal', new.length ≤ steps.length ∧ Audited engine config g start final (log ++ new) journal' := by
  induction steps generalizing hub log journal with
  | nil =>
      cases ran
      refine ⟨[], journal, Nat.le_refl 0, ?_⟩
      rw [List.append_nil]
      exact audited
  | cons step rest ih =>
      rw [hubRun, Option.bind_eq_some_iff] at ran
      obtain ⟨next, stepped, ran⟩ := ran
      obtain ⟨first, journal', short, audited'⟩ :=
        audited_step engine window config protocols recvBufferSize fuel g start hub log journal audited step next stepped
      obtain ⟨others, journal'', shorts, audited''⟩ := ih next (log ++ first) journal' audited' ran
      refine ⟨first ++ others, journal'', ?_, ?_⟩
      · rw [List.length_append, List.length_cons]
        omega
      · rw [← List.append_assoc]
        exact audited''

-- From a ring that Initialize opened, or one that it restored.
theorem server_run_audited (ring : RingParams) (reached : Reached ring) (before after : List HubStep) (middle final : Hub)
    (ranBefore : hubRun engine window config protocols recvBufferSize fuel ⟨ring, []⟩ before = some middle)
    (ranAfter : hubRun engine window config protocols recvBufferSize fuel middle after = some final) :
    ∃ g start log more journal journal', Keeps g ring start ∧ Audited engine config g start middle log journal ∧
      Audited engine config g start final (log ++ more) journal' ∧ more.length ≤ after.length := by
  obtain ⟨⟨g, start, keeps⟩, flux⟩ := reached_settled ring reached
  have empty : Audited engine config g start ⟨ring, []⟩ [] start :=
    ⟨keeps, flux, rfl, fun _ _ => rfl, fun n submission isLogged => (nomatch isLogged), fun submission logged => (nomatch logged),
      fun member isMember => (nomatch isMember)⟩
  obtain ⟨log, journal, -, audited⟩ :=
    audited_run engine window config protocols recvBufferSize fuel g start before _ [] start empty middle ranBefore
  obtain ⟨more, journal', short, audited'⟩ :=
    audited_run engine window config protocols recvBufferSize fuel g start after _ _ journal audited final ranAfter
  exact ⟨g, start, log, more, journal, journal', keeps, audited, audited', short⟩

end

def postingHub : Hub := ⟨twoSlotRing, [⟨somewhere, newThread DataLink.newClient [.bytes postBytes]⟩]⟩

theorem hub_posted : (hubRun DataLink.plainEngine (fun _ => .whole) noLists allProtocols 1280 3 postingHub [.receives 0 onePass]).map
    (fun hub => hub.ring.latestId) = some 1 := by
  decide +kernel

theorem server_run_audited_post : ∃ final : Hub, final.ring.latestId = 1 ∧ ∃ g start log more journal journal', Keeps g twoSlotRing start ∧
    Audited DataLink.plainEngine noLists g start postingHub log journal ∧
    Audited DataLink.plainEngine noLists g start final (log ++ more) journal' ∧ more.length ≤ 1 := by
  obtain ⟨final, ran, latest⟩ := Option.map_eq_some_iff.mp hub_posted
  exact ⟨final, latest, server_run_audited DataLink.plainEngine (fun _ => .whole) noLists allProtocols 1280 3 twoSlotRing
    two_slot_ring_reached [.connects somewhere [.bytes postBytes]] [.receives 0 onePass] postingHub final rfl ran⟩

end RingServer
