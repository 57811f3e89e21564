import RingServer.Net.Framing

set_option autoImplicit false

namespace RingServer.Net

open Library

def streamOf (conn : Connection) : List UInt8 := conn.recvBuffer ++ bytesOf conn.socket

def NoHeader (buffer : List UInt8) : Prop :=
  buffer.length < 3 ∨ ∃ d l headerLen behind, buffer = d :: l :: headerLen :: behind ∧ behind.length < headerLen.toNat

structure Between (size : Nat) (buffer : List UInt8) : Prop where
  room : buffer.length ≤ size
  full : size ≤ buffer.length → NoHeader buffer

theorem between_start (size : Nat) : Between size [] := ⟨Nat.zero_le _, fun _ => .inl (by decide)⟩

section

variable {Session : Type} (handle : Session → List UInt8 → Reaction Session)

theorem parse_short (session : Session) (bytes : List UInt8) (short : bytes.length < 3) : parseStream handle session bytes = [] := by
  have isShort : ∀ d l headerLen behind, bytes = d :: l :: headerLen :: behind → False := by
    rintro d l headerLen behind rfl
    rw [List.length_cons, List.length_cons, List.length_cons] at short
    omega
  rw [parseStream]
  exact isShort

theorem parse_refused (session : Session) (d l headerLen : UInt8) (behind : List UInt8)
    (refused : d ≠ 68 ∨ l ≠ 76 ∨ headerLen < 2 ∨ behind.length < headerLen.toNat) :
    parseStream handle session (d :: l :: headerLen :: behind) = [] := by
  rw [parseStream, if_pos refused]

theorem parse_first (session : Session) (d l headerLen : UInt8) (behind : List UInt8)
    (accepted : ¬ (d ≠ 68 ∨ l ≠ 76 ∨ headerLen < 2)) (whole : headerLen.toNat ≤ behind.length) :
    parseStream handle session (d :: l :: headerLen :: behind) =
      match handle session (behind.take headerLen.toNat) with
      | .ends => [(behind.take headerLen.toNat, [])]
      | .goesOn session => (behind.take headerLen.toNat, []) :: parseStream handle session (behind.drop headerLen.toNat)
      | .reads length next =>
          if (behind.drop headerLen.toNat).length < length then []
          else (behind.take headerLen.toNat, (behind.drop headerLen.toNat).take length) ::
            match next ((behind.drop headerLen.toNat).take length) with
            | none => []
            | some session => parseStream handle session ((behind.drop headerLen.toNat).drop length) := by
  have complete : ¬ (d ≠ 68 ∨ l ≠ 76 ∨ headerLen < 2 ∨ behind.length < headerLen.toNat) := by
    rintro (notD | notL | small | short)
    · exact accepted (.inl notD)
    · exact accepted (.inr (.inl notL))
    · exact accepted (.inr (.inr small))
    · omega
  rw [parseStream]
  exact if_neg complete

theorem parse_head (session : Session) (bytes : List UInt8) (command : List UInt8 × List UInt8) (more : List (List UInt8 × List UInt8))
    (parsed : parseStream handle session bytes = command :: more) :
    ∃ d l headerLen behind, bytes = d :: l :: headerLen :: behind ∧ command.1.length = headerLen.toNat ∧
      commandLength command ≤ bytes.length := by
  match bytes with
  | [] | [_] | [_, _] =>
      rw [parse_short handle session _ (by simp only [List.length_cons, List.length_nil]; omega)] at parsed
      cases parsed
  | d :: l :: headerLen :: behind =>
      refine ⟨d, l, headerLen, behind, rfl, ?_⟩
      by_cases refused : d ≠ 68 ∨ l ≠ 76 ∨ headerLen < 2 ∨ behind.length < headerLen.toNat
      · rw [parse_refused handle session d l headerLen behind refused] at parsed
        cases parsed
      have whole : headerLen.toNat ≤ behind.length := by
        by_contra short
        exact refused (.inr (.inr (.inr (by omega))))
      have header : (behind.take headerLen.toNat).length = headerLen.toNat := List.length_take_of_le whole
      have rest : (behind.drop headerLen.toNat).length = behind.length - headerLen.toNat := List.length_drop
      rw [parse_first handle session d l headerLen behind (fun bad => refused (by tauto)) whole] at parsed
      rw [commandLength, List.length_cons, List.length_cons, List.length_cons]
      split at parsed
      · cases parsed
        exact ⟨header, by rw [header, List.length_nil]; omega⟩
      · cases parsed
        exact ⟨header, by rw [header, List.length_nil]; omega⟩
      · split at parsed
        · cases parsed
        · cases parsed
          exact ⟨header, by rw [header, List.length_take]; omega⟩

def lengths (session : Session) (bytes : List UInt8) : List Nat := (parseStream handle session bytes).map commandLength

theorem lengths_head (session : Session) (bytes : List UInt8) (item : Nat) (more : List Nat)
    (same : lengths handle session bytes = item :: more) :
    ∃ d l headerLen behind, bytes = d :: l :: headerLen :: behind ∧ 3 + headerLen.toNat ≤ item ∧ item ≤ bytes.length := by
  rw [lengths, List.map_eq_cons_iff] at same
  obtain ⟨command, rest, parsed, rfl, _⟩ := same
  obtain ⟨d, l, headerLen, behind, isBytes, header, whole⟩ := parse_head handle session bytes command rest parsed
  refine ⟨d, l, headerLen, behind, isBytes, ?_, whole⟩
  rw [commandLength, header]
  exact Nat.le_add_right _ _

theorem no_header_of_prefix (buffer rest : List UInt8) (d l headerLen : UInt8) (behind : List UInt8)
    (stream : buffer ++ rest = d :: l :: headerLen :: behind) (short : buffer.length < 3 + headerLen.toNat) : NoHeader buffer := by
  match buffer with
  | [] | [_] | [_, _] => exact .inl (by simp only [List.length_cons, List.length_nil]; omega)
  | d' :: l' :: headerLen' :: behind' =>
      obtain ⟨_, _, rfl, _⟩ : d' = d ∧ l' = l ∧ headerLen' = headerLen ∧ behind' ++ rest = behind := by
        simpa only [List.cons_append, List.cons.injEq] using stream
      refine .inr ⟨d', l', headerLen', behind', rfl, ?_⟩
      rw [List.length_cons, List.length_cons, List.length_cons] at short
      omega

theorem sleeps (session : Session) (conn : Connection) (none : NoHeader conn.recvBuffer) :
    Pending conn.recvBuffer.length (lengths handle session (streamOf conn)) (chunkLengths conn.socket) ↔
      Suffices conn.recvBuffer.length (lengths handle session (streamOf conn)) (chunkLengths conn.socket) := by
  refine pending_sleep _ _ _ fun item more same => ?_
  obtain ⟨d, l, headerLen, behind, stream, least, whole⟩ := lengths_head handle session _ item more same
  have before : conn.recvBuffer.length < item := by
    rcases none with short | ⟨d', l', headerLen', behind', isBuffer, short⟩
    · omega
    · obtain ⟨_, _, rfl, _⟩ : d' = d ∧ l' = l ∧ headerLen' = headerLen ∧ behind' ++ bytesOf conn.socket = behind := by
        simpa only [streamOf, isBuffer, List.cons_append, List.cons.injEq] using stream
      rw [isBuffer, List.length_cons, List.length_cons, List.length_cons]
      omega
  refine ⟨before, fun nothing => ?_⟩
  rw [streamOf, chunk_lengths_nil conn.socket nothing, List.append_nil] at whole
  omega

structure Sleeps (size : Nat) (session : Session) (conn conn' : Connection) : Prop where
  stream : streamOf conn' = streamOf conn
  between : Between size conn'.recvBuffer
  less : conn'.socket.length < conn.socket.length
  served : Suffices conn.recvBuffer.length (lengths handle session (streamOf conn)) (chunkLengths conn.socket) ↔
    Suffices conn'.recvBuffer.length (lengths handle session (streamOf conn)) (chunkLengths conn'.socket)

structure Takes (size : Nat) (session : Session) (conn : Connection) (headerLen : UInt8) (behind header : List UInt8)
    (conn' : Connection) : Prop where
  stream : streamOf conn = 68 :: 76 :: headerLen :: behind
  least : ¬ headerLen < 2
  whole : headerLen.toNat ≤ behind.length
  header : header = behind.take headerLen.toNat
  rest : streamOf conn' = behind.drop headerLen.toNat
  room : 3 + headerLen.toNat + conn'.recvBuffer.length ≤ size
  less : conn'.socket.length < conn.socket.length
  served : Suffices conn.recvBuffer.length (lengths handle session (streamOf conn)) (chunkLengths conn.socket) ↔
    Pending (3 + headerLen.toNat + conn'.recvBuffer.length) (lengths handle session (streamOf conn)) (chunkLengths conn'.socket)

def CommandSpec (size : Nat) (session : Session) (conn : Connection) : DLCommand → Prop
  | .failed _ => parseStream handle session (streamOf conn) = [] ∨ chunkLengths conn.socket = []
  | .waits conn' => Sleeps handle size session conn conn'
  | .command _ header conn' => ∃ headerLen behind, Takes handle size session conn headerLen behind header conn'

theorem sleeps_blocked (size : Nat) (session : Session) (buffer : List UInt8) (socket : List Receipt) (space : buffer.length < size) :
    Sleeps handle size session ⟨buffer, .wouldBlock :: socket⟩ ⟨buffer, socket⟩ :=
  ⟨rfl, ⟨Nat.le_of_lt space, fun full => absurd full (Nat.not_le_of_lt space)⟩, Nat.lt_succ_self _, Iff.rfl⟩

theorem command_spec_body (size : Nat) (session : Session) (buffer chunk : List UInt8) (socket : List Receipt) (headerLen : UInt8)
    (more : List UInt8) (isBuffer : buffer ++ chunk = 68 :: 76 :: headerLen :: more) (least : ¬ headerLen < 2)
    (room : (buffer ++ chunk).length ≤ size) (totalRead : Nat) (result : DLCommand)
    (ran : recvBody size headerLen.toNat (buffer ++ chunk) totalRead socket = some result) :
    CommandSpec handle size session ⟨buffer, .bytes chunk :: socket⟩ result := by
  have stream : streamOf ⟨buffer, .bytes chunk :: socket⟩ = buffer ++ chunk ++ bytesOf socket := by
    rw [streamOf, bytes_of_bytes, List.append_assoc]
  have isStream : streamOf ⟨buffer, .bytes chunk :: socket⟩ = 68 :: 76 :: headerLen :: (more ++ bytesOf socket) := by
    rw [stream, isBuffer]
    rfl
  have heads : ∀ item rest, lengths handle session (streamOf ⟨buffer, .bytes chunk :: socket⟩) = item :: rest →
      3 + headerLen.toNat ≤ item := by
    intro item rest same
    obtain ⟨d, l, headerLen', behind, isBytes, head, _⟩ := lengths_head handle session _ item rest same
    rw [isStream] at isBytes
    cases isBytes
    exact head
  have three : 3 ≤ (buffer ++ chunk).length := by
    rw [isBuffer]
    simp only [List.length_cons]
    omega
  have spec := recv_body_spec size headerLen.toNat _ heads socket (buffer ++ chunk) totalRead three room result ran
  have taken : Suffices buffer.length (lengths handle session (streamOf ⟨buffer, .bytes chunk :: socket⟩))
      (chunkLengths (.bytes chunk :: socket)) ↔
      Pending (buffer ++ chunk).length (lengths handle session (streamOf ⟨buffer, .bytes chunk :: socket⟩)) (chunkLengths socket) := by
    rw [chunk_lengths_bytes, suffices_take, List.length_append]
  cases result with
  | failed code =>
      have short : (buffer ++ chunk ++ bytesOf socket).length < 3 + headerLen.toNat := spec
      refine .inl ?_
      rw [← stream, isStream, List.length_cons, List.length_cons, List.length_cons] at short
      rw [isStream]
      exact parse_refused handle session _ _ _ _ (.inr (.inr (.inr (by omega))))
  | waits conn =>
      have same : streamOf conn = streamOf ⟨buffer, .bytes chunk :: socket⟩ := spec.stream.trans stream.symm
      have none := no_header_of_prefix conn.recvBuffer (bytesOf conn.socket) 68 76 headerLen _ (same.trans isStream) spec.short
      have asleep := sleeps handle session conn none
      rw [same] at asleep
      exact ⟨same, ⟨spec.room, fun _ => none⟩, Nat.lt_succ_of_le spec.less, taken.trans (spec.pending.trans asleep)⟩
  | command nread header conn =>
      have whole := spec.whole
      rw [← stream, isStream, List.length_cons, List.length_cons, List.length_cons] at whole
      refine ⟨headerLen, more ++ bytesOf socket, isStream, least, by omega, ?_, ?_, spec.room, Nat.lt_succ_of_le spec.less,
        taken.trans spec.pending⟩
      · rw [spec.header, ← stream, isStream]
        rfl
      · have rest := spec.stream
        rw [← stream, isStream, Nat.add_comm] at rest
        exact rest

theorem sleeps_short (size : Nat) (session : Session) (buffer chunk : List UInt8) (socket : List Receipt)
    (room : (buffer ++ chunk).length ≤ size) (short : (buffer ++ chunk).length < 3) :
    Sleeps handle size session ⟨buffer, .bytes chunk :: socket⟩ ⟨buffer ++ chunk, socket⟩ := by
  have stream : streamOf ⟨buffer ++ chunk, socket⟩ = streamOf ⟨buffer, .bytes chunk :: socket⟩ := by
    rw [streamOf, streamOf, bytes_of_bytes, List.append_assoc]
  have asleep := sleeps handle session ⟨buffer ++ chunk, socket⟩ (.inl short)
  refine ⟨stream, ⟨room, fun _ => .inl short⟩, Nat.lt_succ_self _, ?_⟩
  rw [chunk_lengths_bytes, suffices_take, ← List.length_append, ← stream]
  exact asleep

theorem recv_command_spec (size : Nat) (session : Session) (conn : Connection) (space : conn.recvBuffer.length < size)
    (result : DLCommand) (ran : recvDLCommand size conn = some result) : CommandSpec handle size session conn result := by
  obtain ⟨buffer, socket⟩ := conn
  rw [recvDLCommand, if_neg (by simpa using space)] at ran
  cases socket with
  | nil =>
      cases ran
      exact .inr rfl
  | cons receipt socket =>
      cases receipt with
      | wouldBlock =>
          cases ran
          exact sleeps_blocked handle size session buffer socket space
      | bytes chunk =>
          dsimp only at ran
          by_cases given : Receivable (size - buffer.length) chunk
          · rw [if_pos given] at ran
            have room : (buffer ++ chunk).length ≤ size := by
              have fits := given.2
              have below : buffer.length < size := space
              rw [List.length_append]
              omega
            rcases isBuffer : buffer ++ chunk with _ | ⟨d, _ | ⟨l, _ | ⟨headerLen, more⟩⟩⟩
            · rw [isBuffer] at ran
              cases ran
              rw [← isBuffer]
              exact sleeps_short handle size session buffer chunk socket room (by rw [isBuffer]; decide)
            · rw [isBuffer] at ran
              cases ran
              rw [← isBuffer]
              exact sleeps_short handle size session buffer chunk socket room (by rw [isBuffer]; exact Nat.lt_of_sub_eq_succ rfl)
            · rw [isBuffer] at ran
              cases ran
              rw [← isBuffer]
              exact sleeps_short handle size session buffer chunk socket room (by rw [isBuffer]; exact Nat.lt_of_sub_eq_succ rfl)
            · rw [isBuffer] at ran
              dsimp only at ran
              by_cases malformed : d ≠ 68 ∨ l ≠ 76 ∨ headerLen < 2
              · rw [if_pos malformed] at ran
                cases ran
                refine .inl ?_
                rw [streamOf, bytes_of_bytes, ← List.append_assoc, isBuffer]
                exact parse_refused handle session d l headerLen _ (by tauto)
              · rw [if_neg malformed] at ran
                obtain ⟨rfl, rfl, least⟩ : d = 68 ∧ l = 76 ∧ ¬ headerLen < 2 := by tauto
                rw [← isBuffer] at ran
                exact command_spec_body handle size session buffer chunk socket headerLen more isBuffer least room _ result ran
          · rw [if_neg given] at ran
            cases ran

def commandsOf (session : Option Session) (bytes : List UInt8) : List (List UInt8 × List UInt8) :=
  match session with
  | none => []
  | some session => parseStream handle session bytes

structure Serves (size : Nat) (session : Session) (conn : Connection) (dispatched : List (List UInt8 × List UInt8))
    (command : List UInt8 × List UInt8) (loop : ClientLoop Session) : Prop where
  commands : parseStream handle session (streamOf conn) = command :: commandsOf handle loop.session (streamOf loop.conn)
  dispatched : loop.dispatched = dispatched ++ [command]
  space : loop.conn.recvBuffer.length < size
  less : loop.conn.socket.length < conn.socket.length
  served : Served size conn.recvBuffer.length (parseStream handle session (streamOf conn)) conn.socket ↔
    Served size loop.conn.recvBuffer.length (commandsOf handle loop.session (streamOf loop.conn)) loop.conn.socket

theorem takes_serves (size : Nat) (session : Session) (conn : Connection) (headerLen : UInt8) (behind header payload : List UInt8)
    (conn' : Connection) (takes : Takes handle size session conn headerLen behind header conn') (session' : Option Session)
    (after : Connection) (dispatched : List (List UInt8 × List UInt8))
    (commands : parseStream handle session (streamOf conn) = (header, payload) :: commandsOf handle session' (streamOf after))
    (shorter : after.recvBuffer.length ≤ conn'.recvBuffer.length) (less : after.socket.length ≤ conn'.socket.length)
    (pending : Pending (3 + headerLen.toNat + conn'.recvBuffer.length) (lengths handle session (streamOf conn))
        (chunkLengths conn'.socket) ↔
      Pending (3 + headerLen.toNat + payload.length + after.recvBuffer.length) (lengths handle session (streamOf conn))
        (chunkLengths after.socket)) :
    Serves handle size session conn dispatched (header, payload) ⟨session', after, dispatched ++ [(header, payload)]⟩ := by
  have room := takes.room
  have long : header.length = headerLen.toNat := by
    rw [takes.header]
    exact List.length_take_of_le takes.whole
  have length : commandLength (header, payload) = 3 + headerLen.toNat + payload.length := by
    rw [commandLength, long]
  have items : lengths handle session (streamOf conn) =
      commandLength (header, payload) :: (commandsOf handle session' (streamOf after)).map commandLength := by
    rw [lengths, commands, List.map_cons]
  have suffices' : Suffices conn.recvBuffer.length (lengths handle session (streamOf conn)) (chunkLengths conn.socket) ↔
      Suffices after.recvBuffer.length ((commandsOf handle session' (streamOf after)).map commandLength)
        (chunkLengths after.socket) := by
    rw [takes.served, pending, items, ← length, pending_serve _ _ _ _ (Nat.le_add_right _ _), Nat.add_sub_cancel_left]
  refine ⟨commands, rfl, ?_, Nat.lt_of_le_of_lt less takes.less, ?_⟩
  · show after.recvBuffer.length < size
    omega
  · constructor
    · rintro ⟨fits, enough⟩
      refine ⟨fun command member => fits command ?_, suffices'.mp enough⟩
      rw [commands]
      exact List.mem_cons_of_mem _ member
    · rintro ⟨fits, enough⟩
      refine ⟨fun command member => ?_, suffices'.mpr enough⟩
      rw [commands, List.mem_cons] at member
      rcases member with rfl | member
      · show 3 + header.length ≤ size
        omega
      · exact fits command member

theorem dispatch_spec (size : Nat) (session : Session) (conn : Connection) (headerLen : UInt8) (behind header : List UInt8)
    (conn' : Connection) (takes : Takes handle size session conn headerLen behind header conn')
    (dispatched : List (List UInt8 × List UInt8)) (loop : ClientLoop Session)
    (ran : dispatch handle session header conn' dispatched = some loop) :
    (parseStream handle session (streamOf conn) = [] ∧ loop.session = none ∧ loop.dispatched = dispatched) ∨
      ∃ command, Serves handle size session conn dispatched command loop := by
  have parsed := parse_first handle session 68 76 headerLen behind (by simpa using takes.least) takes.whole
  rw [← takes.stream, ← takes.header, ← takes.rest] at parsed
  rw [dispatch] at ran
  cases reacts : handle session header with
  | ends =>
      rw [reacts] at ran parsed
      cases ran
      exact .inr ⟨(header, []), takes_serves handle size session conn headerLen behind header [] conn' takes none conn' dispatched
        parsed (Nat.le_refl _) (Nat.le_refl _) Iff.rfl⟩
  | goesOn next =>
      rw [reacts] at ran parsed
      cases ran
      exact .inr ⟨(header, []), takes_serves handle size session conn headerLen behind header [] conn' takes (some next) conn'
        dispatched parsed (Nat.le_refl _) (Nat.le_refl _) Iff.rfl⟩
  | reads length next =>
      rw [reacts] at ran parsed
      dsimp only at ran parsed
      rw [Option.map_eq_some_iff] at ran
      obtain ⟨⟨received, after⟩, got, rfl⟩ := ran
      have heads : ∀ item more, lengths handle session (streamOf conn) = item :: more → 3 + headerLen.toNat + length ≤ item := by
        intro item more same
        have long : header.length = headerLen.toNat := by
          rw [takes.header]
          exact List.length_take_of_le takes.whole
        rw [lengths, parsed] at same
        by_cases short : (streamOf conn').length < length
        · rw [if_pos short] at same
          cases same
        · rw [if_neg short] at same
          cases same
          have payload := List.length_take_of_le (Nat.le_of_not_lt short)
          exact Nat.le_of_eq (by rw [commandLength, long, payload])
      have spec := recv_data_spec _ (3 + headerLen.toNat) length heads conn' _ got
      cases received with
      | none =>
          have short : (streamOf conn').length < length := spec
          rw [if_pos short] at parsed
          exact .inl ⟨parsed, rfl, rfl⟩
      | some payload =>
          obtain ⟨whole, isPayload, stream, shorter, less, pending⟩ := spec
          have long : payload.length = length := by
            rw [isPayload]
            exact List.length_take_of_le whole
          have complete : ¬ (streamOf conn').length < length := Nat.not_lt_of_le whole
          have taken : (streamOf conn').take length = payload := isPayload.symm
          have rest : (streamOf conn').drop length = streamOf after := stream.symm
          rw [if_neg complete, taken, rest] at parsed
          rw [← long] at pending
          exact .inr ⟨(header, payload), takes_serves handle size session conn headerLen behind header payload conn' takes
            (next payload) after dispatched parsed shorter less pending⟩

def Dispatches (size : Nat) (loop final : ClientLoop Session) : Prop :=
  ∃ commands, final.dispatched = loop.dispatched ++ commands ∧
    (commands = commandsOf handle loop.session (streamOf loop.conn) ↔
      Served size loop.conn.recvBuffer.length (commandsOf handle loop.session (streamOf loop.conn)) loop.conn.socket)

theorem dispatches_nothing (size : Nat) (loop final : ClientLoop Session) (same : final.dispatched = loop.dispatched)
    (nothing : commandsOf handle loop.session (streamOf loop.conn) = []) : Dispatches handle size loop final := by
  refine ⟨[], by rw [same, List.append_nil], ?_⟩
  rw [nothing]
  exact ⟨fun _ => ⟨fun _ member => absurd member List.not_mem_nil, suffices_none _ _⟩, fun _ => rfl⟩

theorem dispatches_stops (size : Nat) (loop final : ClientLoop Session) (same : final.dispatched = loop.dispatched)
    (lost : ¬ Served size loop.conn.recvBuffer.length (commandsOf handle loop.session (streamOf loop.conn)) loop.conn.socket) :
    Dispatches handle size loop final := by
  refine ⟨[], by rw [same, List.append_nil], fun nothing => ?_, fun served => absurd served lost⟩
  rw [← nothing]
  exact ⟨fun _ member => absurd member List.not_mem_nil, suffices_none _ _⟩

theorem dispatches_closed (size : Nat) (session : Session) (conn : Connection) (dispatched : List (List UInt8 × List UInt8))
    (closed : chunkLengths conn.socket = []) : Dispatches handle size ⟨some session, conn, dispatched⟩ ⟨none, conn, dispatched⟩ := by
  cases parsed : parseStream handle session (streamOf conn) with
  | nil => exact dispatches_nothing handle size _ _ rfl parsed
  | cons command more =>
      refine dispatches_stops handle size _ _ rfl fun served => ?_
      have enough := served.2
      rw [closed, suffices_nothing, commandsOf, parsed] at enough
      cases enough

theorem turns_still (size n : Nat) (loop : ClientLoop Session) (still : turn handle size loop = some loop) :
    turns handle size n loop = some loop := by
  induction n with
  | zero => rfl
  | succ n ih =>
      rw [turns, still]
      exact ih

theorem dispatches_full (size : Nat) (session : Session) (conn : Connection) (dispatched : List (List UInt8 × List UInt8))
    (between : Between size conn.recvBuffer) (full : size ≤ conn.recvBuffer.length) :
    Dispatches handle size ⟨some session, conn, dispatched⟩ ⟨some session, conn, dispatched⟩ := by
  cases parsed : parseStream handle session (streamOf conn) with
  | nil => exact dispatches_nothing handle size _ _ rfl parsed
  | cons command more =>
      refine dispatches_stops handle size _ _ rfl fun served => ?_
      have fits := served.1 command (by rw [commandsOf, parsed]; exact List.mem_cons_self)
      obtain ⟨d, l, headerLen, behind, stream, header, whole⟩ := parse_head handle session _ command more parsed
      rcases between.full full with short | ⟨d', l', headerLen', behind', isBuffer, short⟩
      · omega
      · obtain ⟨_, _, rfl, _⟩ : d' = d ∧ l' = l ∧ headerLen' = headerLen ∧ behind' ++ bytesOf conn.socket = behind := by
          simpa only [streamOf, isBuffer, List.cons_append, List.cons.injEq] using stream
        rw [isBuffer, List.length_cons, List.length_cons, List.length_cons] at full
        omega

theorem turn_received (size : Nat) (session : Session) (conn : Connection) (dispatched : List (List UInt8 × List UInt8))
    (result : DLCommand) :
    recvDLCommand size conn = some result → turn handle size ⟨some session, conn, dispatched⟩ = match result with
      | .failed _ => some ⟨none, conn, dispatched⟩
      | .waits conn' => some ⟨some session, conn', dispatched⟩
      | .command _ header conn' => dispatch handle session header conn' dispatched := by
  intro received
  rw [turn, received]
  rfl

theorem turns_dispatch (size n : Nat) (loop final : ClientLoop Session) (between : Between size loop.conn.recvBuffer)
    (enough : loop.conn.socket.length < n) (ran : turns handle size n loop = some final) : Dispatches handle size loop final := by
  induction n generalizing loop with
  | zero => exact absurd enough (Nat.not_lt_zero _)
  | succ n ih =>
      obtain ⟨session, conn, dispatched⟩ := loop
      cases session with
      | none =>
          rw [turns_still handle size (n + 1) _ rfl] at ran
          cases ran
          exact dispatches_nothing handle size _ _ rfl rfl
      | some session =>
          by_cases full : size ≤ conn.recvBuffer.length
          · have received : recvDLCommand size conn = some (.waits conn) := by rw [recvDLCommand, if_pos full]
            rw [turns_still handle size (n + 1) _ (turn_received handle size session conn dispatched _ received)] at ran
            cases ran
            exact dispatches_full handle size session conn dispatched between full
          rw [turns, Option.bind_eq_some_iff] at ran
          obtain ⟨next, turned, ran⟩ := ran
          cases received : recvDLCommand size conn with
          | none =>
              rw [turn, received] at turned
              cases turned
          | some result =>
              have spec := recv_command_spec handle size session conn (Nat.lt_of_not_le full) result received
              rw [turn_received handle size session conn dispatched result received] at turned
              cases result with
              | failed code =>
                  cases turned
                  rw [turns_still handle size n _ rfl] at ran
                  cases ran
                  rcases spec with nothing | closed
                  · exact dispatches_nothing handle size _ _ rfl nothing
                  · exact dispatches_closed handle size session conn dispatched closed
              | waits conn' =>
                  cases turned
                  obtain ⟨commands, log, exactly⟩ := ih ⟨some session, conn', dispatched⟩ spec.between
                    (Nat.lt_of_lt_of_le spec.less (Nat.le_of_lt_succ enough)) ran
                  rw [commandsOf, spec.stream] at exactly
                  exact ⟨commands, log, exactly.trans (and_congr_right fun _ => spec.served.symm)⟩
              | command nread header conn' =>
                  obtain ⟨headerLen, behind, takes⟩ := spec
                  rcases dispatch_spec handle size session conn headerLen behind header conn' takes dispatched next turned with
                    ⟨nothing, ended, same⟩ | ⟨command, serves⟩
                  · rw [turns_still handle size n next (by rw [turn, ended])] at ran
                    cases ran
                    exact dispatches_nothing handle size _ _ same nothing
                  · obtain ⟨commands, log, exactly⟩ := ih next
                      ⟨Nat.le_of_lt serves.space, fun full => absurd full (Nat.not_le_of_lt serves.space)⟩
                      (Nat.lt_of_lt_of_le serves.less (Nat.le_of_lt_succ enough)) ran
                    refine ⟨command :: commands, by rw [log, serves.dispatched, List.append_assoc]; rfl, ?_⟩
                    rw [commandsOf, serves.served, ← exactly, serves.commands, List.cons.injEq]
                    exact and_iff_right rfl

end

end RingServer.Net
