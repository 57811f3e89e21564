import RingServer.Protocols.DataLinkFrames
import RingServer.Protocols.HttpRequests
import RingServer.Protocols.RunInner
import RingServer.Protocols.SeedLinkReady

set_option autoImplicit false

namespace RingServer

open Net Config

-- The ring stays as it is, or it is what Write makes of it with a packet whose stream ID,
-- as its slot has it, the limit accepts. Without permission it stays as it is.
structure Confined (perm : Bool) (limit : Option (Text → Bool)) (ring ring' : RingParams) : Prop where
  denied : perm = false → ring' = ring
  granted : ring' = ring ∨ ∃ clock packet data stored, RingBuffer.write clock ring packet data packet.dataSize = some (0, ring', stored) ∧
    limit.all (· (storedId packet.streamId)) = true

def PostsData (web : Http.Surroundings) (ring : RingParams) (buffer : List UInt8) : Prop :=
  Http.Submits (Http.requestLine (decodeASCII buffer)) ∧
    ∃ body, Http.bodyOf web (decodeASCII buffer) = some body ∧ body ≠ [] ∧ ¬ 112 + UInt32.ofNat body.length > ring.pktSize

-- A WRITE of a stream ID that the limit accepts, but not what a slot keeps of it.
def Disguised (limit : Option (Text → Bool)) (client : ClientInfo) : Prop :=
  DataLink.IsWrite client ∧ ∃ streamId, (DataLink.readCommand client.dlCommand).parts[1]? = some streamId ∧
    limit.all (· (DataLink.canonicalStreamId streamId)) = true ∧
    ¬ limit.all (· (storedId (DataLink.canonicalStreamId streamId))) = true

theorem confined_same (perm : Bool) (limit : Option (Text → Bool)) (ring : RingParams) : Confined perm limit ring ring :=
  ⟨fun _ => rfl, .inl rfl⟩

section

variable (protocols : Net.ListenProtocols) (recvBufferSize fuel : Nat) (perm : Bool) (limit : Option (Text → Bool))

def Orderly (ring : RingParams) (thread : ClientThread) : ThreadStep → Prop
  | .receives pass =>
      match clientRecv recvBufferSize (determine protocols pass.arrived thread) with
      | some (.command header _) => perm = true → ¬ Disguised limit (takesCommand header thread.client)
      | some (.line nread conn) => (determine protocols pass.arrived thread).type = some .http →
          PostsData pass.web ring (conn.recvBuffer.set nread 0) → perm = true ∧ limit.all (· "HTTP".toList) = true
      | _ => True
  | _ => True

def OrderlyAlong : RingParams → ClientThread → List ThreadStep → Prop
  | _, _, [] => True
  | ring, thread, step :: rest => Orderly protocols recvBufferSize perm limit ring thread step ∧
      ∀ ring' thread', threadStep protocols recvBufferSize fuel ring thread step = some (ring', thread') → OrderlyAlong ring' thread' rest

def ConfinedAlong : RingParams → ClientThread → List ThreadStep → Prop
  | _, _, [] => True
  | ring, thread, step :: rest =>
      ∀ ring' thread', threadStep protocols recvBufferSize fuel ring thread step = some (ring', thread') →
        ((∀ change, step ≠ .others change) → Confined perm limit ring ring') ∧ ConfinedAlong ring' thread' rest

-- The rights of the thread are those of its connection. A SeedLink client may change its
-- limit, and never writes.
def Granted (thread : ClientThread) : Prop :=
  thread.type ≠ some .seedLink → thread.client.writePerm = perm ∧ thread.client.reader.limit = limit

theorem write_results (clock : NsTime) (ring ring' : RingParams) (packet stored : RingPacket) (data : List UInt8) (dataSize : UInt32)
    (code : Int) (wrote : RingBuffer.write clock ring packet data dataSize = some (code, ring', stored)) :
    ring' = ring ∨ code = 0 ∧ ¬ 112 + dataSize > ring.pktSize := by
  rw [RingBuffer.write] at wrote
  by_cases large : 112 + dataSize > ring.pktSize
  · rw [if_pos large] at wrote
    cases wrote
    exact .inl rfl
  · rw [if_neg large, Option.map_eq_some_iff] at wrote
    obtain ⟨result, _, same⟩ := wrote
    exact .inr ⟨(congrArg Prod.fst same).symm, large⟩

theorem handle_get_only (web : Http.Surroundings) (ring : RingParams) (reader : RingReader) (path : Text) (outcome : Http.Outcome)
    (ran : (Http.handleGet web ring reader path).map (.only ring) = some outcome) : outcome.ring = ring := by
  obtain ⟨response, _, rfl⟩ := Option.map_eq_some_iff.mp ran
  rfl

theorem handle_post_ring (web : Http.Surroundings) (clock : Nat → NsTime) (ring : RingParams) (path request : Text)
    (outcome : Http.Outcome) (ran : Http.handlePost web clock ring path request = some outcome) :
    outcome.ring = ring ∨ ((path = "/data".toList ∨ path = "/dl".toList) ∧
      (∃ body, Http.bodyOf web request = some body ∧ body ≠ [] ∧ ¬ 112 + UInt32.ofNat body.length > ring.pktSize) ∧
      ∃ packet data stored, RingBuffer.write (clock 2) ring packet data packet.dataSize = some (0, outcome.ring, stored) ∧
        packet.streamId = "HTTP".toList) := by
  rw [Http.handlePost] at ran
  by_cases data : path = "/data".toList ∨ path = "/dl".toList
  · rw [if_pos data] at ran
    cases isBody : Http.bodyOf web request with
    | none =>
        rw [isBody] at ran
        cases ran
        exact .inl rfl
    | some body =>
        rw [isBody] at ran
        dsimp only at ran
        by_cases empty : body.isEmpty = true
        · rw [if_pos empty] at ran
          cases ran
          exact .inl rfl
        · rw [if_neg empty] at ran
          obtain ⟨⟨code, ring', stored⟩, wrote, rfl⟩ := Option.map_eq_some_iff.mp ran
          rcases write_results _ _ _ _ _ _ _ _ wrote with same | ⟨success, fits⟩
          · exact .inl same
          · have some : body ≠ [] := fun none => empty (by rw [none]; rfl)
            rw [success] at wrote
            exact .inr ⟨data, ⟨body, rfl, some, fits⟩, _, _, stored, wrote, rfl⟩
  · rw [if_neg data] at ran
    cases ran
    exact .inl rfl

theorem handle_request_ring (web : Http.Surroundings) (clock : Nat → NsTime) (ring : RingParams) (reader : RingReader)
    (buffer : List UInt8) (outcome : Http.Outcome) (ran : Http.handleRequest web clock ring reader buffer = some outcome) :
    outcome.ring = ring ∨ (PostsData web ring buffer ∧
      ∃ packet data stored, RingBuffer.write (clock 2) ring packet data packet.dataSize = some (0, outcome.ring, stored) ∧
        packet.streamId = "HTTP".toList) := by
  rw [Http.handleRequest] at ran
  by_cases nothing : (Http.requestLines (decodeASCII buffer)).isEmpty = true
  · rw [if_pos nothing] at ran
    cases ran
    exact .inl rfl
  rw [if_neg nothing] at ran
  split at ran
  · rename_i method path behind isLine
    by_cases get : toUpperInvariant method = "GET".toList
    · rw [if_pos get] at ran
      exact .inl (handle_get_only web ring reader path outcome ran)
    rw [if_neg get] at ran
    by_cases post : toUpperInvariant method = "POST".toList
    · rw [if_pos post] at ran
      rcases handle_post_ring web clock ring path _ outcome ran with same | ⟨data, body, wrote⟩
      · exact .inl same
      · exact .inr ⟨⟨⟨method, path, behind, isLine, post, data⟩, body⟩, wrote⟩
    · rw [if_neg post] at ran
      cases ran
      exact .inl rfl
  · cases ran
    exact .inl rfl

theorem determine_granted (arrived : Nat) (thread : ClientThread) (granted : Granted perm limit thread) :
    Granted perm limit (determine protocols arrived thread) := by
  rw [determine]
  split
  · exact granted
  · rename_i undetermined
    have held := granted (by rw [undetermined]; exact fun same => nomatch same)
    split
    · exact granted
    · exact fun _ => held
    · exact fun _ => held

theorem determine_client (arrived : Nat) (thread : ClientThread) : (determine protocols arrived thread).client = thread.client := by
  rw [determine]
  split
  · rfl
  · split <;> rfl

theorem does_confined (clock : NsTime) (ring : RingParams) (client : ClientInfo) (perms : client.writePerm = perm)
    (limits : client.reader.limit = limit) (plain : perm = true → ¬ Disguised limit client) (received : Option (List UInt8))
    (outcome : DataLink.Outcome) (does : DataLink.Does clock ring client received outcome) :
    Confined perm limit ring outcome.ring ∧ outcome.client.writePerm = perm ∧ outcome.client.reader.limit = limit := by
  cases does with
  | moves moves =>
      refine ⟨?_, moves.writePerm.trans perms, moves.limit.trans limits⟩
      rw [moves.ring]
      exact confined_same perm limit ring
  | writes packet stored db payload command allowed asks wrote kept sent =>
      have granted : perm = true := perms.symm.trans allowed
      obtain ⟨word, streamId, startStr, endStr, flags, sizeStr, behind, isParts, _, canonical, _⟩ := asks.request
      have accepted := asks.limit
      rw [limits, canonical] at accepted
      have kept' : limit.all (· (storedId packet.streamId)) = true := by
        by_contra refused
        rw [canonical] at refused
        exact plain granted ⟨command, streamId, by rw [isParts]; rfl, accepted, refused⟩
      rw [kept]
      exact ⟨⟨fun denied => absurd (granted.symm.trans denied) (by decide), .inr ⟨clock, packet, db, stored, wrote, kept'⟩⟩, perms, limits⟩

theorem recv_data_length (length : Nat) (conn conn' : Connection) (payload : List UInt8)
    (received : recvData length conn = some (some payload, conn')) : payload.length = length := by
  have spec := recv_data_spec [] 0 length (fun _ _ same => nomatch same) conn _ received
  rw [spec.2.1, List.length_take_of_le spec.1]

theorem dispatch_data_link_confined (pass : Pass) (ring : RingParams) (thread : ClientThread) (header : List UInt8)
    (type : thread.type = some .dataLink) (granted : Granted perm limit thread)
    (plain : perm = true → ¬ Disguised limit (takesCommand header thread.client)) (result : RingParams × ClientThread)
    (ran : dispatchDataLink fuel pass ring thread header = some result) :
    Confined perm limit ring result.1 ∧ Granted perm limit result.2 := by
  obtain ⟨perms, limits⟩ := granted (by rw [type]; exact fun same => nomatch same)
  have idle (client : ClientInfo) (same : client.writePerm = perm ∧ client.reader.limit = limit) (conn : Connection) (running : Bool) :
      Confined perm limit ring ring ∧ Granted perm limit ⟨thread.type, conn, client, thread.ext, running⟩ :=
    ⟨confined_same perm limit ring, fun _ => same⟩
  have command (received : Option (List UInt8)) (outcome : DataLink.Outcome) (conn : Connection)
      (does : DataLink.Does (pass.clock 0) ring (takesCommand header thread.client) received outcome) :
      Confined perm limit ring outcome.ring ∧
        Granted perm limit ⟨thread.type, conn, outcome.client, thread.ext, outcome.code = 0⟩ := by
    have done := does_confined perm limit (pass.clock 0) ring (takesCommand header thread.client) perms limits plain received outcome does
    exact ⟨done.1, fun _ => done.2⟩
  have does := DataLink.handle_command_does pass.around.engine fuel (pass.clock 0) ring (takesCommand header thread.client)
  rw [dispatchDataLink] at ran
  cases handled : DataLink.handleCommand pass.around.engine fuel (pass.clock 0) ring (takesCommand header thread.client) with
  | throws =>
      simp only [handled, Option.some.injEq] at ran
      rw [← ran]
      exact idle _ ⟨perms, limits⟩ _ _
  | returns outcome =>
      rw [handled] at does
      simp only [handled, Option.some.injEq] at ran
      rw [← ran]
      exact command none outcome _ does
  | receives size next lost =>
      rw [handled] at does
      simp only [handled, Option.map_eq_some_iff] at ran
      obtain ⟨⟨payload, conn⟩, received, ran⟩ := ran
      rw [← ran]
      cases payload with
      | none => exact command none lost _ does.1
      | some payload =>
          dsimp only
          cases goesOn : next payload with
          | none => exact idle _ ⟨perms, limits⟩ _ _
          | some outcome => exact command (some payload) outcome _ (does.2 payload outcome (recv_data_length _ _ _ _ received) goesOn)

theorem http_id_stored : storedId "HTTP".toList = "HTTP".toList := by decide

theorem dispatch_line_confined (pass : Pass) (ring : RingParams) (thread : ClientThread) (nread : Nat) (conn : Connection)
    (lines : thread.type = some .http ∨ thread.type = some .seedLink) (granted : Granted perm limit thread)
    (quiet : thread.type = some .http → PostsData pass.web ring (conn.recvBuffer.set nread 0) →
      perm = true ∧ limit.all (· "HTTP".toList) = true) :
    Confined perm limit ring (dispatchLine fuel pass ring thread nread conn).1 ∧
      Granted perm limit (dispatchLine fuel pass ring thread nread conn).2 := by
  rw [dispatchLine]
  dsimp only
  by_cases http : thread.type = some .http
  · rw [if_pos http]
    cases ran : Http.handleRequest pass.web pass.clock ring thread.client.reader (conn.recvBuffer.set nread 0) with
    | none => exact ⟨confined_same perm limit ring, granted⟩
    | some outcome =>
        refine ⟨?_, granted⟩
        rcases handle_request_ring pass.web pass.clock ring _ _ outcome ran with same | ⟨posts, packet, data, stored, wrote, isHttp⟩
        · rw [Option.map_some, Option.getD_some, same]
          exact confined_same perm limit ring
        · obtain ⟨allowed, accepted⟩ := quiet http posts
          refine ⟨fun denied => absurd (allowed.symm.trans denied) (by decide), .inr ⟨_, packet, data, stored, wrote, ?_⟩⟩
          rw [isHttp, http_id_stored]
          exact accepted
  · have seedLink : thread.type = some .seedLink := lines.resolve_left http
    rw [if_neg http]
    cases SeedLink.handleCommand pass.around fuel ring ⟨thread.client, thread.ext⟩ ((conn.recvBuffer.set nread 0).take nread) with
    | none => exact ⟨confined_same perm limit ring, granted⟩
    | some outcome => exact ⟨confined_same perm limit ring, fun other => absurd seedLink other⟩

theorem streams_confined (pass : Pass) (ring : RingParams) (thread : ClientThread) (granted : Granted perm limit thread) :
    Confined perm limit ring (streams fuel pass ring thread).1 ∧ Granted perm limit (streams fuel pass ring thread).2 := by
  rw [streams]
  by_cases streaming : thread.client.state = .stream
  · rw [if_pos streaming]
    split
    · rename_i dataLink
      obtain ⟨perms, limits⟩ := granted (by rw [dataLink]; exact fun same => nomatch same)
      cases ran : DataLink.streamPackets fuel ring thread.client pass.cachedPacket with
      | none => exact ⟨confined_same perm limit ring, granted⟩
      | some outcome =>
          have moves := DataLink.stream_packets_moves fuel ring thread.client pass.cachedPacket outcome ran
          refine ⟨?_, fun _ => ⟨moves.writePerm.trans perms, moves.limit.trans limits⟩⟩
          rw [Option.map_some, Option.getD_some, moves.ring]
          exact confined_same perm limit ring
    · rename_i seedLink
      cases SeedLink.streamPackets pass.around fuel ring ⟨thread.client, thread.ext⟩ with
      | none => exact ⟨confined_same perm limit ring, granted⟩
      | some outcome => exact ⟨confined_same perm limit ring, fun other => absurd seedLink other⟩
    · exact ⟨confined_same perm limit ring, granted⟩
  · rw [if_neg streaming]
    exact ⟨confined_same perm limit ring, granted⟩

def ComesFrom (type : Option ClientType) : Received → Prop
  | .command _ _ => type = some .dataLink
  | .line _ _ => type = some .http ∨ type = some .seedLink
  | _ => True

theorem client_recv_type (thread : ClientThread) (received : Received) (ran : clientRecv recvBufferSize thread = some received) :
    ComesFrom thread.type received := by
  rw [clientRecv] at ran
  split at ran
  · cases ran
    trivial
  · rename_i dataLink
    obtain ⟨result, _, rfl⟩ := Option.map_eq_some_iff.mp ran
    cases result with
    | failed code => trivial
    | waits conn => trivial
    | command nread header conn => exact dataLink
  · rename_i type other isType
    obtain ⟨result, _, rfl⟩ := Option.map_eq_some_iff.mp ran
    cases result with
    | failed code => trivial
    | received nread conn =>
        dsimp only
        by_cases line : 0 < nread
        · rw [if_pos line]
          cases type with
          | dataLink => exact absurd rfl other
          | seedLink => exact .inr isType
          | http => exact .inl isType
        · rw [if_neg line]
          trivial

theorem receives_confined (pass : Pass) (ring : RingParams) (thread : ClientThread) (granted : Granted perm limit thread)
    (orderly : Orderly protocols recvBufferSize perm limit ring thread (.receives pass)) (result : RingParams × ClientThread)
    (ran : receives protocols recvBufferSize fuel pass ring thread = some result) :
    Confined perm limit ring result.1 ∧ Granted perm limit result.2 := by
  have determined := determine_granted protocols perm limit pass.arrived thread granted
  rw [receives] at ran
  by_cases running : (determine protocols pass.arrived thread).running = true
  · rw [if_pos running, Option.bind_eq_some_iff] at ran
    obtain ⟨received, got, handed⟩ := ran
    have types := client_recv_type recvBufferSize _ received got
    rw [Orderly, got] at orderly
    cases received with
    | nothing conn =>
        cases handed
        exact ⟨confined_same perm limit ring, determined⟩
    | closed =>
        cases handed
        exact ⟨confined_same perm limit ring, determined⟩
    | command header conn =>
        apply dispatch_data_link_confined fuel perm limit pass ring { determine protocols pass.arrived thread with conn := conn } header
          types determined _ result handed
        show perm = true → ¬ Disguised limit (takesCommand header (determine protocols pass.arrived thread).client)
        rw [determine_client]
        exact orderly
    | line nread conn =>
        cases handed
        exact dispatch_line_confined fuel perm limit pass ring _ nread conn types determined orderly
  · rw [if_neg running] at ran
    cases ran
    exact ⟨confined_same perm limit ring, determined⟩

theorem step_confined (ring : RingParams) (thread : ClientThread) (step : ThreadStep) (granted : Granted perm limit thread)
    (orderly : Orderly protocols recvBufferSize perm limit ring thread step) (result : RingParams × ClientThread)
    (ran : threadStep protocols recvBufferSize fuel ring thread step = some result) :
    ((∀ change, step ≠ .others change) → Confined perm limit ring result.1) ∧ Granted perm limit result.2 := by
  cases step with
  | receives pass =>
      rw [threadStep] at ran
      by_cases running : thread.running = true
      · rw [if_pos running] at ran
        have done := receives_confined protocols recvBufferSize fuel perm limit pass ring thread granted orderly result ran
        exact ⟨fun _ => done.1, done.2⟩
      · rw [if_neg running] at ran
        cases ran
        exact ⟨fun _ => confined_same perm limit ring, granted⟩
  | streams pass =>
      rw [threadStep] at ran
      obtain rfl := Option.some.inj ran
      by_cases running : thread.running = true
      · rw [if_pos running]
        have done := streams_confined fuel perm limit pass ring thread granted
        exact ⟨fun _ => done.1, done.2⟩
      · rw [if_neg running]
        exact ⟨fun _ => confined_same perm limit ring, granted⟩
  | others change =>
      cases ran
      exact ⟨fun own => absurd rfl (own change), granted⟩

theorem run_confined (steps : List ThreadStep) (ring : RingParams) (thread : ClientThread) (granted : Granted perm limit thread)
    (orderly : OrderlyAlong protocols recvBufferSize fuel perm limit ring thread steps) :
    ConfinedAlong protocols recvBufferSize fuel perm limit ring thread steps := by
  induction steps generalizing ring thread with
  | nil => trivial
  | cons step rest ih =>
      obtain ⟨now, later⟩ := orderly
      intro ring' thread' ran
      obtain ⟨confined, granted'⟩ := step_confined protocols recvBufferSize fuel perm limit ring thread step granted now _ ran
      exact ⟨confined, ih ring' thread' granted' (later ring' thread' ran)⟩

-- Whatever bytes a client sends, in whatever pieces and to whatever port.
theorem write_access (engine : Engine) (window : UInt32 → TimeWinLimit) (config : ServerConfig) (addr : IPAddress) (client : ClientInfo)
    (connected : connect engine window config addr = some client) (socket : List Receipt) (ring : RingParams) (steps : List ThreadStep)
    (orderly : OrderlyAlong protocols recvBufferSize fuel (isWriteIP config addr) client.reader.limit ring (newThread client socket)
      steps) :
    ConfinedAlong protocols recvBufferSize fuel (isWriteIP config addr) client.reader.limit ring (newThread client socket) steps := by
  apply run_confined protocols recvBufferSize fuel _ _ steps ring _ _ orderly
  rw [connect] at connected
  split at connected
  · cases connected
    exact fun _ => ⟨rfl, rfl⟩
  · cases connected

end

def noLists : ServerConfig := ⟨initialValues, fun _ => [], []⟩

def somewhere : IPAddress := ⟨.interNetwork, [10, 0, 0, 1], 0⟩

theorem somewhere_connected : connect DataLink.plainEngine (fun _ => .whole) noLists somewhere = some DataLink.newClient := rfl

def onePass : Pass := ⟨3, fun _ => ⟨5⟩, DataLink.newPacket, SeedLink.quiet, Http.noFiles⟩

def writeBytes : List UInt8 := [68, 76, 15] ++ (encodeASCII "WRITE A 0 0 A 1".toList ++ [7])

theorem write_access_denied : ConfinedAlong ⟨true, false, false⟩ 1280 3 false none twoSlotRing
    (newThread DataLink.newClient [.bytes writeBytes]) [.receives onePass] := by
  apply write_access ⟨true, false, false⟩ 1280 3 DataLink.plainEngine (fun _ => .whole) noLists somewhere DataLink.newClient
    somewhere_connected
  refine ⟨?_, fun _ _ _ => trivial⟩
  rw [Orderly]
  split
  · exact fun granted => absurd granted (by decide)
  · exact fun http => absurd http (by decide)
  · trivial

def postBytes : List UInt8 := encodeASCII "POST /data HTTP/1.1\r\nHost: x\r\n\r\nA".toList

theorem post_stored : (threadStep allProtocols 1280 3 twoSlotRing (newThread DataLink.newClient [.bytes postBytes]) (.receives onePass)).map
    (fun result => result.1.latestId) = some 1 := by
  decide +kernel

-- A client without write permission posts a packet.
theorem post_without_permission : connect DataLink.plainEngine (fun _ => .whole) noLists somewhere = some DataLink.newClient ∧
    isWriteIP noLists somewhere = false ∧ ¬ ConfinedAlong allProtocols 1280 3 (isWriteIP noLists somewhere) DataLink.newClient.reader.limit
      twoSlotRing (newThread DataLink.newClient [.bytes postBytes]) [.receives onePass] := by
  refine ⟨somewhere_connected, rfl, fun confined => ?_⟩
  obtain ⟨⟨ring', thread'⟩, ran, latest⟩ := Option.map_eq_some_iff.mp post_stored
  have along := confined ring' thread' ran
  have same := (along.1 fun _ => ThreadStep.noConfusion).denied rfl
  rw [same] at latest
  exact absurd latest (show twoSlotRing.latestId ≠ 1 by decide)

end RingServer
