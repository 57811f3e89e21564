import RingServer.Protocols.DataLinkSteps
import RingServer.Ring.StreamFile
import RingServer.Ring.Run

set_option autoImplicit false

namespace RingServer.DataLink

open Library

-- The receiving end: DataLink puts the size of the payload last in the header of
-- the replies that have one.
def sizedWords : List (List UInt8) :=
  [encodeASCII "OK".toList, encodeASCII "ERROR".toList, encodeASCII "INFO".toList, encodeASCII "PACKET".toList]

def announcedSize (header : List UInt8) : Nat :=
  match pieces (fun b => b = 32) header with
  | word :: fields =>
      if word ∈ sizedWords then (fields.getLast?.map fun field => Nat.ofDigitChars 10 (decodeASCII field) 0).getD 0 else 0
  | [] => 0

def unframe : Nat → List UInt8 → Option (List (List UInt8 × List UInt8))
  | 0, _ => none
  | _ + 1, [] => some []
  | fuel + 1, 68 :: 76 :: headerLen :: behind =>
      let header := behind.take headerLen.toNat
      let size := announcedSize header
      let payload := behind.drop headerLen.toNat
      if header.length < headerLen.toNat ∨ payload.length < size then none
      else (unframe fuel (payload.drop size)).map fun frames => (header, payload.take size) :: frames
  | _ + 1, _ => none

def decodeReplies (bytes : List UInt8) : Option (List (List UInt8 × List UInt8)) := unframe (bytes.length + 1) bytes

def frameOf (reply : Reply) : List UInt8 := (sendPacket reply).getD []

-- A reply whose payload the header announces, or that has none.
def Announced (reply : Reply) : Prop := reply.addSz = true ∨ reply.data = none

instance (reply : Reply) : Decidable (Announced reply) := inferInstanceAs (Decidable (_ ∨ _))

theorem encode_append (first second : Text) : encodeASCII (first ++ second) = encodeASCII first ++ encodeASCII second :=
  List.map_append

theorem encode_space (text : Text) : encodeASCII (' ' :: text) = 32 :: encodeASCII text := rfl

theorem decode_decimal (n : Nat) : decodeASCII (encodeASCII (decimal n)) = decimal n := by
  apply decode_encode
  intro c member
  have digit := decimal_digits n c member
  rw [Char.isDigit, Bool.and_eq_true, decide_eq_true_iff, decide_eq_true_iff] at digit
  have upper : c.toNat ≤ 57 := digit.2
  omega

theorem encoded_decimal_plain (n : Nat) : ∀ b ∈ encodeASCII (decimal n), decide (b = 32) = false := by
  intro b member
  obtain ⟨c, isDigit, rfl⟩ := List.mem_map.mp member
  have digit := decimal_digits n c isDigit
  rw [Char.isDigit, Bool.and_eq_true, decide_eq_true_iff, decide_eq_true_iff] at digit
  have lower : 48 ≤ c.toNat := digit.1
  have upper : c.toNat ≤ 57 := digit.2
  rw [if_pos (by omega)]
  apply decide_eq_false
  intro same
  have value := congrArg UInt8.toNat same
  rw [UInt8.toNat_ofNat', Nat.mod_eq_of_lt (by omega)] at value
  have space : (32 : UInt8).toNat = 32 := rfl
  omega

theorem announced_last (word middle : Text) (n : Nat) (isWord : encodeASCII word ∈ sizedWords) :
    announcedSize (encodeASCII (word ++ ' ' :: (middle ++ ' ' :: decimal n))) = n := by
  have plain : ∀ b ∈ encodeASCII word, decide (b = 32) = false := by
    have all : (sizedWords.all fun known => known.all fun b => b ≠ 32) = true := rfl
    intro b member
    exact decide_eq_false (of_decide_eq_true (List.all_eq_true.mp (List.all_eq_true.mp all _ isWord) b member))
  have some : encodeASCII word ≠ [] := by
    intro none
    rw [none] at isWord
    exact absurd isWord (by decide)
  have size : encodeASCII (decimal n) ≠ [] := fun empty => decimal_ne_nil n (List.map_eq_nil_iff.mp empty)
  rw [encode_append, encode_space, encode_append, encode_space, announcedSize, pieces_sep _ _ _ 32 (by decide),
    pieces_sep _ (encodeASCII middle) _ 32 (by decide), pieces_plain _ _ plain some, pieces_plain _ _ (encoded_decimal_plain n) size]
  simp only [List.singleton_append, if_pos isWord, List.getLast?_concat, Option.map_some, Option.getD_some, decode_decimal, decimal_value]

theorem header_words (word id pktId time start stop size : Text) :
    word ++ [' '] ++ id ++ ' ' :: (pktId ++ ' ' :: (time ++ ' ' :: (start ++ ' ' :: (stop ++ ' ' :: size)))) =
      word ++ ' ' :: ((id ++ ' ' :: (pktId ++ ' ' :: (time ++ ' ' :: (start ++ ' ' :: stop)))) ++ ' ' :: size) := by
  simp only [List.append_assoc, List.cons_append, List.nil_append]

theorem packet_header_announces (packet : RingPacket) :
    announcedSize (encodeASCII (packetHeader packet)) = packet.dataSize.toNat := by
  have isWord : encodeASCII "PACKET".toList ∈ sizedWords := by decide
  have words : packetHeader packet = _ := header_words "PACKET".toList _ _ _ _ _ _
  rw [words]
  exact announced_last _ _ _ isWord

theorem ok_header_announces (header : Text) (data : Option (List UInt8)) (value : UInt64) (isWord : encodeASCII header ∈ sizedWords) :
    announcedSize (encodeASCII (Reply.mk header data value true true).headerText) = (data.getD []).length :=
  announced_last header (decimal value.toNat) _ isWord

theorem info_words (word type size : Text) : word ++ [' '] ++ type ++ ' ' :: size = word ++ ' ' :: (type ++ ' ' :: size) := by
  simp only [List.append_assoc, List.cons_append, List.nil_append]

theorem info_header_announces (type : Text) (data : List UInt8) :
    announcedSize (encodeASCII (Reply.mk ("INFO ".toList ++ type) (some data) 0 false true).headerText) = data.length := by
  have header (text : Text) : (Reply.mk text (some data) 0 false true).headerText = text ++ ' ' :: decimal data.length := rfl
  have word : "INFO ".toList = "INFO".toList ++ [' '] := rfl
  have isWord : encodeASCII "INFO".toList ∈ sizedWords := by decide
  rw [header, word, info_words]
  exact announced_last _ _ _ isWord

theorem emitted_announces (reply : Reply) (emitted : Emitted reply) :
    announcedSize (encodeASCII reply.headerText) = reply.dataBytes.length ↔ Announced reply := by
  cases emitted with
  | error message some =>
      have none : announcedSize (encodeASCII (errorReply message).headerText) = 0 := by
        have header : (errorReply message).headerText = "ERROR".toList := rfl
        rw [header]
        decide
      have size : (errorReply message).dataBytes.length = message.length := encode_length message
      rw [none, size]
      constructor
      · intro empty
        exact absurd (List.length_eq_zero_iff.mp empty.symm) some
      · intro announced
        cases announced with
        | inl flag => cases flag
        | inr missing => cases missing
  | sizedError message => exact ⟨fun _ => Or.inl rfl, fun _ => ok_header_announces _ _ _ (by decide)⟩
  | ok data value => exact ⟨fun _ => Or.inl rfl, fun _ => ok_header_announces _ _ _ (by decide)⟩
  | info type known data => exact ⟨fun _ => Or.inl rfl, fun _ => info_header_announces type data⟩
  | id ring client =>
      refine ⟨fun _ => Or.inr rfl, fun _ => ?_⟩
      have text : ∃ rest, encodeASCII (idReply ring client).headerText = encodeASCII "ID".toList ++ 32 :: rest := ⟨_, rfl⟩
      obtain ⟨rest, isText⟩ := text
      have plain : ∀ b ∈ encodeASCII "ID".toList, decide (b = 32) = false := by
        intro b member
        have all : ((encodeASCII "ID".toList).all fun b => b ≠ 32) = true := rfl
        exact decide_eq_false (of_decide_eq_true (List.all_eq_true.mp all b member))
      rw [isText, announcedSize, pieces_sep _ _ _ 32 (by decide), pieces_plain _ _ plain (by decide)]
      rfl
  | endStream => exact ⟨fun _ => Or.inr rfl, fun _ => by decide⟩
  | packet packet data reply isReply =>
      rw [packetReply] at isReply
      by_cases inside : packet.dataSize.toNat ≤ data.length
      · rw [if_pos inside] at isReply
        cases isReply
        have size : (packet.serialize ++ data.take packet.dataSize.toNat).length = 112 + packet.dataSize.toNat := by
          rw [List.length_append, serialize_length, List.length_take]
          omega
        have header : (Reply.mk (packetHeader packet) (some (packet.serialize ++ data.take packet.dataSize.toNat)) 0 false
            false).headerText = packetHeader packet := rfl
        have bytes : (Reply.mk (packetHeader packet) (some (packet.serialize ++ data.take packet.dataSize.toNat)) 0 false
            false).dataBytes = packet.serialize ++ data.take packet.dataSize.toNat := rfl
        rw [header, packet_header_announces, bytes, size]
        constructor
        · intro same
          omega
        · intro announced
          cases announced with
          | inl flag => cases flag
          | inr missing => cases missing
      · rw [if_neg inside] at isReply
        cases isReply

theorem frame_split (reply : Reply) (fits : (sendPacket reply).isSome = true) :
    (encodeASCII reply.headerText).length ≤ 255 ∧ frameOf reply =
      68 :: 76 :: UInt8.ofNat (encodeASCII reply.headerText).length :: (encodeASCII reply.headerText ++ reply.dataBytes) := by
  rw [frameOf, sendPacket] at *
  by_cases long : 255 < (encodeASCII reply.headerText).length
  · simp only [if_pos long, Option.isSome_none, Bool.false_eq_true] at fits
  · simp only [if_neg long]
    exact ⟨not_lt.mp long, rfl⟩

theorem unframe_frame (reply : Reply) (fits : (sendPacket reply).isSome = true) (fuel : Nat) (rest : List UInt8) :
    unframe (fuel + 1) (frameOf reply ++ rest) =
      if (reply.dataBytes ++ rest).length < announcedSize (encodeASCII reply.headerText) then none
      else (unframe fuel ((reply.dataBytes ++ rest).drop (announcedSize (encodeASCII reply.headerText)))).map fun frames =>
        (encodeASCII reply.headerText, (reply.dataBytes ++ rest).take (announcedSize (encodeASCII reply.headerText))) :: frames := by
  obtain ⟨short, isFrame⟩ := frame_split reply fits
  have byte : (UInt8.ofNat (encodeASCII reply.headerText).length).toNat = (encodeASCII reply.headerText).length := by
    rw [UInt8.toNat_ofNat', Nat.mod_eq_of_lt (by omega)]
  have behind : encodeASCII reply.headerText ++ reply.dataBytes ++ rest = encodeASCII reply.headerText ++ (reply.dataBytes ++ rest) :=
    List.append_assoc _ _ _
  rw [isFrame]
  simp only [List.cons_append, unframe, byte, behind, List.take_left, List.drop_left, lt_irrefl, false_or]

theorem unframe_replies (replies : List Reply) (sends : Sends replies) (fuel : Nat) (enough : replies.length < fuel) :
    unframe fuel (replies.flatMap frameOf) = some (replies.map fun reply => (encodeASCII reply.headerText, reply.dataBytes)) ↔
      ∀ reply ∈ replies, Announced reply := by
  induction replies generalizing fuel with
  | nil =>
      obtain ⟨more, rfl⟩ : ∃ more, fuel = more + 1 := ⟨fuel - 1, by omega⟩
      exact ⟨fun _ _ member => absurd member List.not_mem_nil, fun _ => rfl⟩
  | cons reply rest ih =>
      obtain ⟨more, rfl⟩ : ∃ more, fuel = more + 1 := ⟨fuel - 1, by omega⟩
      obtain ⟨emitted, fits⟩ := sends reply List.mem_cons_self
      have announces := emitted_announces reply emitted
      have tail := ih (fun other member => sends other (List.mem_cons_of_mem _ member)) more (by simp at enough; omega)
      rw [List.flatMap_cons, unframe_frame reply fits more, List.forall_mem_cons, List.map_cons]
      constructor
      · intro decoded
        by_cases short : (reply.dataBytes ++ rest.flatMap frameOf).length < announcedSize (encodeASCII reply.headerText)
        · rw [if_pos short] at decoded
          cases decoded
        rw [if_neg short, Option.map_eq_some_iff] at decoded
        obtain ⟨frames, decodedRest, same⟩ := decoded
        obtain ⟨first, others⟩ := List.cons.inj same
        have payload := congrArg (fun frame : List UInt8 × List UInt8 => frame.2.length) first
        simp only [List.length_take] at payload
        have size : announcedSize (encodeASCII reply.headerText) = reply.dataBytes.length := by omega
        rw [size, List.drop_left, others] at decodedRest
        exact ⟨announces.mp size, tail.mp decodedRest⟩
      · intro announced
        have size := announces.mpr announced.1
        rw [size, if_neg (by rw [List.length_append]; omega), List.drop_left, List.take_left, tail.mpr announced.2]
        rfl

-- A DataLink session as far as its output goes: frames come in and are handled, and
-- packets are streamed, while the ring may be any at each step.
inductive Talk (engine : Engine) (fuel : Nat) : ClientInfo → List Reply → Prop
  | start (client : ClientInfo) : Talk engine fuel client []
  | frame (client : ClientInfo) (sent : List Reply) (header : List UInt8) (talk : Talk engine fuel client sent) :
      Talk engine fuel { client with dlCommand := storeCommand client.dlCommand header } sent
  | command (clock : NsTime) (ring : RingParams) (client : ClientInfo) (sent : List Reply) (outcome : Outcome)
      (talk : Talk engine fuel client sent) (handled : handleCommand engine fuel clock ring client = .returns outcome) :
      Talk engine fuel outcome.client (sent ++ outcome.sent)
  | payload (clock : NsTime) (ring : RingParams) (client : ClientInfo) (sent : List Reply) (size : Nat)
      (next : List UInt8 → Option Outcome) (lost outcome : Outcome) (bytes : List UInt8) (talk : Talk engine fuel client sent)
      (handled : handleCommand engine fuel clock ring client = .receives size next lost) (long : bytes.length = size)
      (ran : next bytes = some outcome) : Talk engine fuel outcome.client (sent ++ outcome.sent)
  | stream (ring : RingParams) (client : ClientInfo) (sent : List Reply) (cachedPacket : RingPacket) (outcome : Outcome)
      (talk : Talk engine fuel client sent) (ran : streamPackets fuel ring client cachedPacket = some outcome) :
      Talk engine fuel outcome.client (sent ++ outcome.sent)

theorem does_sends (clock : NsTime) (ring : RingParams) (client : ClientInfo) (received : Option (List UInt8))
    (outcome : Outcome) (does : Does clock ring client received outcome) : Sends outcome.sent := by
  cases does with
  | moves moves => exact moves.sent
  | writes _ _ _ _ _ _ _ _ _ sent => exact sent

theorem sends_append (first second : List Reply) (before : Sends first) (after : Sends second) : Sends (first ++ second) := by
  intro reply member
  cases List.mem_append.mp member with
  | inl inside => exact before reply inside
  | inr inside => exact after reply inside

theorem talk_sends (engine : Engine) (fuel : Nat) (client : ClientInfo) (sent : List Reply) (talk : Talk engine fuel client sent) :
    Sends sent := by
  induction talk with
  | start client => exact sends_nil
  | frame _ _ _ _ ih => exact ih
  | command clock ring client sent outcome _ handled ih =>
      have does := handle_command_does engine fuel clock ring client
      rw [handled] at does
      exact sends_append _ _ ih (does_sends _ _ _ _ _ does)
  | payload clock ring client sent size next lost outcome bytes _ handled long ran ih =>
      have does := handle_command_does engine fuel clock ring client
      rw [handled] at does
      exact sends_append _ _ ih (does_sends _ _ _ _ _ (does.2 bytes outcome long ran))
  | stream ring client sent cachedPacket outcome _ ran ih =>
      exact sends_append _ _ ih (stream_packets_moves fuel ring client cachedPacket outcome ran).sent

theorem frames_enough (replies : List Reply) (sends : Sends replies) : replies.length ≤ (replies.flatMap frameOf).length := by
  induction replies with
  | nil => exact Nat.le_refl 0
  | cons reply rest ih =>
      have some : 1 ≤ (frameOf reply).length := by
        rw [(frame_split reply (sends reply List.mem_cons_self).2).2]
        exact Nat.le_add_left _ _
      have others := ih fun other member => sends other (List.mem_cons_of_mem _ member)
      rw [List.flatMap_cons, List.length_append, List.length_cons]
      omega

-- The client decodes what was sent exactly when every reply announces its payload.
theorem replies_decoded (engine : Engine) (fuel : Nat) (client : ClientInfo) (sent : List Reply)
    (talk : Talk engine fuel client sent) :
    decodeReplies (sent.flatMap frameOf) = some (sent.map fun reply => (encodeASCII reply.headerText, reply.dataBytes)) ↔
      ∀ reply ∈ sent, Announced reply := by
  have sends := talk_sends engine fuel client sent talk
  exact unframe_replies sent sends _ (Nat.lt_succ_of_le (frames_enough sent sends))

def plainEngine : Engine := ⟨fun _ => none, decodeASCII, fun _ _ _ _ _ => []⟩

def newClient : ClientInfo := ⟨noCommand, .command, false, false, .whole,
    ⟨-1, Constants.ringIdNone, NsTime.unset, NsTime.unset, NsTime.unset, none, none, none⟩⟩

def named (header : Text) : ClientInfo := { newClient with dlCommand := storeCommand noCommand (encodeASCII header) }

theorem named_talk (header : Text) (outcome : Outcome)
    (handled : handleCommand plainEngine 1 ⟨5⟩ twoSlotRing (named header) = .returns outcome) :
    Talk plainEngine 1 outcome.client outcome.sent :=
  .command ⟨5⟩ twoSlotRing (named header) [] outcome (.frame newClient [] (encodeASCII header) (.start newClient)) handled

theorem id_handled (ring : RingParams) (client : ClientInfo) (parsed : (readCommand client.dlCommand).parts = ["ID".toList])
    (fits : (sendPacket (idReply ring client)).isSome = true) :
    handleCommand plainEngine 1 ⟨5⟩ ring client = .returns ⟨0, ring, client, [idReply ring client]⟩ := by
  have upper : toUpperInvariant "ID".toList = "ID".toList := by decide
  simp only [handleCommand, parsed, upper]
  rw [if_neg (by decide), if_neg (by decide), if_neg (by decide), if_neg (by decide), if_neg (by decide), if_pos trivial,
    handleNegotiation, if_pos rfl, returnSend, if_pos fits]

theorem help_handled (ring : RingParams) (client : ClientInfo) (parsed : (readCommand client.dlCommand).parts = ["HELP".toList])
    (inCommand : client.state = .command) :
    handleCommand plainEngine 1 ⟨5⟩ ring client = .returns ⟨-1, ring, client, [errorReply "Unknown command".toList]⟩ := by
  have upper : toUpperInvariant "HELP".toList = "HELP".toList := by decide
  have same : { client with state := .command } = client := by rw [← inCommand]
  simp only [handleCommand, parsed, upper]
  rw [if_neg (by decide), if_neg (by decide), if_neg (by decide), if_neg (by decide), if_neg (by decide), if_neg (by decide), same,
    handleNegotiation, if_neg (by decide), if_neg (by decide), if_neg (by decide), if_neg (by decide), if_neg (by decide), refuse,
    returnSend, if_pos (by decide)]

def askAll (engine : Engine) (fuel : Nat) (ring : RingParams) : List Text → ClientInfo → List Reply → Option (ClientInfo × List Reply)
  | [], client, sent => some (client, sent)
  | header :: rest, client, sent =>
      match handleCommand engine fuel ⟨5⟩ ring { client with dlCommand := storeCommand client.dlCommand (encodeASCII header) } with
      | .returns outcome => askAll engine fuel ring rest outcome.client (sent ++ outcome.sent)
      | _ => none

theorem asked_talk (engine : Engine) (fuel : Nat) (ring : RingParams) (headers : List Text) (client : ClientInfo) (sent : List Reply)
    (talk : Talk engine fuel client sent) (next : ClientInfo) (all : List Reply)
    (ran : askAll engine fuel ring headers client sent = some (next, all)) : Talk engine fuel next all := by
  induction headers generalizing client sent with
  | nil =>
      cases ran
      exact talk
  | cons header rest ih =>
      have framed := Talk.frame client sent (encodeASCII header) talk
      rw [askAll] at ran
      cases handled : handleCommand engine fuel ⟨5⟩ ring { client with dlCommand := storeCommand client.dlCommand (encodeASCII header) } with
      | throws =>
          rw [handled] at ran
          cases ran
      | receives size receive lost =>
          rw [handled] at ran
          cases ran
      | returns outcome =>
          rw [handled] at ran
          exact ih outcome.client (sent ++ outcome.sent) (.command ⟨5⟩ ring _ sent outcome framed handled) ran

def positioning : List Text := ["ID".toList, "POSITION SET LATEST".toList, "POSITION SET EARLIEST".toList]

def positionedReplies : List (Text × Text) :=
  [("ID DataLink v1.1 (RingServer/4.0.1-csharp) :: DLPROTO:1.1 PACKETSIZE:16".toList, []),
    ("OK 3 25".toList, "Positioned to packet ID 3".toList), ("OK 1 25".toList, "Positioned to packet ID 1".toList)]

theorem replies_decoded_three : ∃ client sent, Talk plainEngine 109 client sent ∧
    sent.map (fun reply => (reply.headerText, reply.dataBytes)) = positionedReplies.map (fun reply => (reply.1, encodeASCII reply.2)) ∧
    (∀ reply ∈ sent, Announced reply) ∧
    decodeReplies (sent.flatMap frameOf) = some (sent.map fun reply => (encodeASCII reply.headerText, reply.dataBytes)) := by
  have computed : (askAll plainEngine 109 (writtenRing fourSlotRing threeBytes) positioning newClient []).map (fun asked =>
      (asked.2.map (fun reply => (reply.headerText, reply.dataBytes)), asked.2.all fun reply => decide (Announced reply))) =
        some (positionedReplies.map (fun reply => (reply.1, encodeASCII reply.2)), true) := by
    decide +kernel
  obtain ⟨⟨client, sent⟩, ran, summary⟩ := Option.map_eq_some_iff.mp computed
  rw [Prod.mk.injEq, List.all_eq_true] at summary
  have announced : ∀ reply ∈ sent, Announced reply := fun reply member => of_decide_eq_true (summary.2 reply member)
  have talk := asked_talk plainEngine 109 _ positioning newClient [] (.start newClient) client sent ran
  exact ⟨client, sent, talk, summary.1, announced, (replies_decoded plainEngine 109 client sent talk).mpr announced⟩

theorem unknown_command_not_decoded : Talk plainEngine 1 (named "HELP".toList) [errorReply "Unknown command".toList] ∧
    decodeReplies ([errorReply "Unknown command".toList].flatMap frameOf) = none :=
  ⟨named_talk "HELP".toList ⟨-1, twoSlotRing, named "HELP".toList, [errorReply "Unknown command".toList]⟩
    (help_handled twoSlotRing (named "HELP".toList) (by decide +kernel) rfl), by decide +kernel⟩

end RingServer.DataLink
