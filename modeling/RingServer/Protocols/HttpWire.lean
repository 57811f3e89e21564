import RingServer.Config.ServerConfig
import RingServer.Library.Lines
import RingServer.Protocols.DataLinkFrames
import RingServer.Protocols.HttpFiles
import RingServer.Protocols.HttpRequests

set_option autoImplicit false

namespace RingServer.Http

open Library Net

-- Split(';', StringSplitOptions.RemoveEmptyEntries), and each piece trimmed.
def headersOf (httpHeaders : Option Text) : List Text :=
  (pieces (fun c => c = ';') (httpHeaders.getD [])).map Config.trimSpace

def Surroundings.configured (web : Surroundings) (platform : Platform) (files : FileSystem) (httpHeaders : Option Text) : Surroundings :=
  { web.on platform files with httpHeaders := headersOf httpHeaders }

-- The receiving end: the lines of the head up to an empty one, and then as many bytes as
-- the first Content-Length says.
def headFormat : LineFormat UInt8 where
  isMark := fun b => b = 10
  strip := fun line => if line.getLast? = some 13 then line.dropLast else line
  ending := [13]
  mark := 10
  marks := rfl

def lengthField : List UInt8 := encodeASCII "Content-Length: ".toList

def contentLength (lines : List (List UInt8)) : Option Nat :=
  lines.findSome? fun line =>
    if lengthField.isPrefixOf line then some (Nat.ofDigitChars 10 (decodeASCII (line.drop lengthField.length)) 0) else none

def readResponse (bytes : List UInt8) : Option ((List (List UInt8) × List UInt8) × List UInt8) :=
  (headFormat.readBlock (bytes.length + 1) bytes).bind fun head =>
    (contentLength head.1).bind fun size =>
      if size ≤ head.2.length then some ((head.1, head.2.take size), head.2.drop size) else none

def decodeResponses (bytes : List UInt8) : Option (List (List (List UInt8) × List UInt8)) := readAll readResponse bytes.length bytes

def Response.headLines (response : Response) : List (List UInt8) :=
  encodeASCII ("HTTP/1.1 ".toList ++ response.status) :: encodeASCII ("Content-Type: ".toList ++ response.contentType) ::
    encodeASCII ("Content-Length: ".toList ++ decimal response.body.length) ::
      (response.headers.map encodeASCII ++ [encodeASCII "Connection: close".toList])

def Response.bytes (response : Response) : List UInt8 := response.sends.flatten

def Response.decoded (response : Response) : List (List UInt8) × List UInt8 := (response.headLines, response.body)

def Surroundings.Typed (web : Surroundings) : Prop :=
  ∀ webRoot path contentType data, web.lookUp webRoot path = some (.file contentType data) → '\n' ∉ contentType

structure Formed (web : Surroundings) (response : Response) : Prop where
  status : '\n' ∉ response.status
  contentType : '\n' ∉ response.contentType
  headers : response.headers = [] ∨ response.headers = web.httpHeaders

section

theorem encoded_unbroken (text : Text) (single : '\n' ∉ text) : headFormat.Fits (encodeASCII text) := by
  constructor
  · intro b member
    apply decide_eq_false
    rcases List.mem_append.mp member with inside | ending
    · obtain ⟨c, isChar, rfl⟩ := List.mem_map.mp inside
      by_cases ascii : c.toNat < 128
      · rw [if_pos ascii]
        intro same
        have value := congrArg UInt8.toNat same
        rw [UInt8.toNat_ofNat', Nat.mod_eq_of_lt (by omega)] at value
        have isNewline : c = '\n' := Char.toNat_inj.mp value
        exact single (isNewline ▸ isChar)
      · rw [if_neg ascii]
        decide
    · rw [List.mem_singleton.mp ending]
      decide
  · have last : (encodeASCII text ++ headFormat.ending).getLast? = some 13 := List.getLast?_concat
    exact (if_pos last).trans List.dropLast_concat

theorem frame_encoded (text : Text) : headFormat.frame (encodeASCII text) = encodeASCII (text ++ crlf) := by
  rw [DataLink.encode_append]
  rfl

theorem header_frames (headers : List Text) :
    encodeASCII (headers.flatMap (· ++ crlf)) = (headers.map encodeASCII).flatMap headFormat.frame := by
  induction headers with
  | nil => rfl
  | cons header headers ih =>
      rw [List.flatMap_cons, DataLink.encode_append, ih, List.map_cons, List.flatMap_cons, frame_encoded]

theorem head_frames (http status type contentType length size connection : Text) (headers : List Text) :
    encodeASCII (http ++ (status ++ (crlf ++ (type ++ (contentType ++ (crlf ++ (length ++ (size ++ (crlf ++
      (headers.flatMap (· ++ crlf) ++ (connection ++ (crlf ++ crlf)))))))))))) =
    (encodeASCII (http ++ status) :: encodeASCII (type ++ contentType) :: encodeASCII (length ++ size) ::
      (headers.map encodeASCII ++ [encodeASCII connection])).flatMap headFormat.frame ++ headFormat.frame [] := by
  have blank : headFormat.frame [] = encodeASCII crlf := rfl
  rw [List.flatMap_cons, List.flatMap_cons, List.flatMap_cons, List.flatMap_append, List.flatMap_singleton, ← header_frames, frame_encoded,
    frame_encoded, frame_encoded, frame_encoded, blank]
  simp only [DataLink.encode_append, List.append_assoc]

theorem flatten_sends (head body : List UInt8) : (head :: if body.isEmpty then [] else [body]).flatten = head ++ body := by
  cases body with
  | nil => rfl
  | cons b rest => rw [List.isEmpty_cons, if_neg Bool.false_ne_true, List.flatten_cons, List.flatten_singleton]

theorem header_text_frames (response : Response) :
    encodeASCII response.headerText = response.headLines.flatMap headFormat.frame ++ headFormat.frame [] := by
  unfold Response.headerText Response.headLines
  generalize "HTTP/1.1 ".toList = http
  generalize "Content-Type: ".toList = type
  generalize "Content-Length: ".toList = length
  generalize "Connection: close".toList = connection
  exact head_frames _ _ _ _ _ _ _ _

theorem response_frames (response : Response) :
    response.bytes = response.headLines.flatMap headFormat.frame ++ (headFormat.frame [] ++ response.body) := by
  have body : response.bytes = encodeASCII response.headerText ++ response.body := flatten_sends _ _
  rw [body, header_text_frames, List.append_assoc]

theorem encoded_empty (text : Text) : encodeASCII text = [] ↔ text = [] := List.map_eq_nil_iff

theorem encoded_some (word rest : Text) (some : word ≠ []) : encodeASCII (word ++ rest) ≠ [] := by
  intro empty
  exact some (List.append_eq_nil_iff.mp ((encoded_empty _).mp empty)).1

theorem head_lines_whole (response : Response) : (∀ line ∈ response.headLines, line ≠ []) ↔ [] ∉ response.headers := by
  rw [Response.headLines, List.forall_mem_cons, List.forall_mem_cons, List.forall_mem_cons, List.forall_mem_append, List.forall_mem_map,
    List.forall_mem_singleton]
  constructor
  · intro all none
    exact all.2.2.2.1 [] none rfl
  · intro none
    refine ⟨encoded_some _ _ (by decide), encoded_some _ _ (by decide), encoded_some _ _ (by decide), fun header isHeader empty => ?_, ?_⟩
    · exact none ((encoded_empty header).mp empty ▸ isHeader)
    · intro empty
      exact absurd ((encoded_empty _).mp empty) (by decide)

theorem head_lines_fit (web : Surroundings) (response : Response) (formed : Formed web response)
    (single : ∀ header ∈ web.httpHeaders, '\n' ∉ header) : ∀ line ∈ response.headLines, headFormat.Fits line := by
  have both (word rest : Text) (plain : '\n' ∉ word) (plain' : '\n' ∉ rest) : headFormat.Fits (encodeASCII (word ++ rest)) :=
    encoded_unbroken _ fun member => (List.mem_append.mp member).elim plain plain'
  have digits : '\n' ∉ decimal response.body.length := fun member => absurd (decimal_digits _ _ member) (by decide)
  rw [Response.headLines, List.forall_mem_cons, List.forall_mem_cons, List.forall_mem_cons, List.forall_mem_append, List.forall_mem_map,
    List.forall_mem_singleton]
  refine ⟨both _ _ (by decide) formed.status, both _ _ (by decide) formed.contentType, both _ _ (by decide) digits, fun header isHeader => ?_,
    encoded_unbroken _ (by decide)⟩
  rcases formed.headers with none | configured
  · rw [none] at isHeader
    cases isHeader
  · exact encoded_unbroken header (single header (configured ▸ isHeader))

theorem not_length_field (word rest : Text) (apart : ¬ lengthField <+: encodeASCII word) (apart' : ¬ encodeASCII word <+: lengthField) :
    lengthField.isPrefixOf (encodeASCII (word ++ rest)) = false := by
  apply eq_false_of_ne_true
  intro starts
  have starts := List.isPrefixOf_iff_prefix.mp starts
  rw [DataLink.encode_append] at starts
  rcases List.prefix_or_prefix_of_prefix starts (List.prefix_append _ _) with before | behind
  · exact apart before
  · exact apart' behind

theorem length_field (n : Nat) :
    lengthField.isPrefixOf (encodeASCII ("Content-Length: ".toList ++ decimal n)) = true ∧
      Nat.ofDigitChars 10 (decodeASCII ((encodeASCII ("Content-Length: ".toList ++ decimal n)).drop lengthField.length)) 0 = n := by
  have split : encodeASCII ("Content-Length: ".toList ++ decimal n) = lengthField ++ encodeASCII (decimal n) := DataLink.encode_append _ _
  rw [split]
  refine ⟨List.isPrefixOf_iff_prefix.mpr (List.prefix_append _ _), ?_⟩
  rw [List.drop_left, DataLink.decode_decimal, decimal_value]

-- The server's own Content-Length stands before any configured one.
theorem content_length_found (response : Response) : contentLength response.headLines = some response.body.length := by
  have http := not_length_field "HTTP/1.1 ".toList response.status (by decide) (by decide)
  have type := not_length_field "Content-Type: ".toList response.contentType (by decide) (by decide)
  obtain ⟨starts, value⟩ := length_field response.body.length
  unfold contentLength Response.headLines
  simp only [List.findSome?_cons, http, type, starts, if_true, value]
  rfl

theorem response_read (response : Response) (fits : ∀ line ∈ response.headLines, headFormat.Fits line) (rest : List UInt8) :
    ∃ behind, readResponse (response.bytes ++ rest) =
        (contentLength (response.headLines.takeWhile fun line => !line.isEmpty)).bind (fun size =>
          if size ≤ behind.length then
            some ((response.headLines.takeWhile fun line => !line.isEmpty, behind.take size), behind.drop size)
          else none) ∧ ((∀ line ∈ response.headLines, line ≠ []) → behind = response.body ++ rest) := by
  have empty : headFormat.Fits [] := encoded_unbroken [] (List.not_mem_nil)
  have enough : response.headLines.length < (response.bytes ++ rest).length + 1 := by
    have frames := headFormat.frames_long response.headLines
    rw [response_frames, List.length_append, List.length_append]
    omega
  obtain ⟨behind, read, whole⟩ := headFormat.read_block_frames response.headLines fits empty (response.body ++ rest) _ enough
  refine ⟨behind, ?_, whole⟩
  have bytes : response.bytes ++ rest = response.headLines.flatMap headFormat.frame ++ (headFormat.frame [] ++ (response.body ++ rest)) := by
    rw [response_frames, List.append_assoc, List.append_assoc]
  rw [← bytes] at read
  rw [readResponse, read]
  rfl

theorem response_whole (response : Response) (fits : ∀ line ∈ response.headLines, headFormat.Fits line)
    (whole : ∀ line ∈ response.headLines, line ≠ []) (rest : List UInt8) :
    readResponse (response.bytes ++ rest) = some (response.decoded, rest) := by
  obtain ⟨behind, read, isBehind⟩ := response_read response fits rest
  have all := (LineFormat.take_while_all response.headLines).mpr whole
  have fit : response.body.length ≤ (response.body ++ rest).length := by rw [List.length_append]; omega
  rw [read, isBehind whole, all, content_length_found, Option.bind_some, if_pos fit, List.take_left, List.drop_left]
  rfl

theorem response_cut (response : Response) (fits : ∀ line ∈ response.headLines, headFormat.Fits line) (rest left : List UInt8)
    (read : readResponse (response.bytes ++ rest) = some (response.decoded, left)) : ∀ line ∈ response.headLines, line ≠ [] := by
  obtain ⟨behind, cut, _⟩ := response_read response fits rest
  rw [cut] at read
  obtain ⟨size, _, sized⟩ := Option.bind_eq_some_iff.mp read
  apply (LineFormat.take_while_all response.headLines).mp
  by_cases fit : size ≤ behind.length
  · rw [if_pos fit] at sized
    exact congrArg (fun item : (List (List UInt8) × List UInt8) × List UInt8 => item.1.1) (Option.some.inj sized)
  · rw [if_neg fit] at sized
    cases sized

theorem response_some (response : Response) : response.bytes ≠ [] := by
  rw [response_frames, Response.headLines, List.flatMap_cons, LineFormat.frame]
  intro none
  have length := congrArg List.length none
  simp only [List.length_append, List.length_cons, List.length_nil] at length
  omega

theorem responses_read (responses : List Response) (fits : ∀ response ∈ responses, ∀ line ∈ response.headLines, headFormat.Fits line)
    (fuel : Nat) (enough : (responses.flatMap Response.bytes).length ≤ fuel) :
    readAll readResponse fuel (responses.flatMap Response.bytes) = some (responses.map Response.decoded) ↔
      ∀ response ∈ responses, ∀ line ∈ response.headLines, line ≠ [] := by
  constructor
  · intro all
    induction responses generalizing fuel with
    | nil => exact fun _ member => by cases member
    | cons first responses ih =>
        have fit := fits first List.mem_cons_self
        have here := List.length_pos_iff.mpr (response_some first)
        rw [List.flatMap_cons, List.length_append] at enough
        obtain ⟨less, rfl⟩ : ∃ less, fuel = less + 1 := ⟨fuel - 1, by omega⟩
        rw [List.flatMap_cons] at all
        have some : first.bytes ++ responses.flatMap Response.bytes ≠ [] := fun none => response_some first (List.append_eq_nil_iff.mp none).1
        cases isRead : readResponse (first.bytes ++ responses.flatMap Response.bytes) with
        | none =>
            generalize first.bytes ++ responses.flatMap Response.bytes = bytes at all isRead some
            cases bytes with
            | nil => exact absurd rfl some
            | cons byte bytes =>
                rw [readAll, isRead] at all
                cases all
        | some item =>
            obtain ⟨got, left⟩ := item
            rw [read_all_step readResponse less _ left got some isRead] at all
            obtain ⟨others, read, same⟩ := Option.map_eq_some_iff.mp all
            obtain ⟨isFirst, rfl⟩ := List.cons.inj same
            subst isFirst
            have whole := response_cut first fit _ left isRead
            have isLeft := (response_whole first fit whole (responses.flatMap Response.bytes)).symm.trans isRead
            have isLeft : responses.flatMap Response.bytes = left := (Prod.mk.inj (Option.some.inj isLeft)).2
            rw [← isLeft] at read
            exact List.forall_mem_cons.mpr ⟨whole, ih (fun response member => fits response (List.mem_cons_of_mem first member)) less (by omega) read⟩
  · intro whole
    exact read_all_items readResponse Response.bytes Response.decoded responses (fun response _ => response_some response)
      (fun response member => response_whole response (fits response member) (whole response member)) fuel enough

theorem content_types_typed (filePath : Text) : '\n' ∉ getContentType filePath := by
  have rows : ∀ row ∈ contentTypes, '\n' ∉ row.2.toList := by decide
  rw [getContentType]
  cases isRow : contentTypes.find? fun row => row.1.toList = (getExtension filePath).map Char.toLower with
  | none => exact (by decide : '\n' ∉ "application/octet-stream".toList)
  | some row => exact rows row (List.mem_of_find?_eq_some isRow)

theorem files_typed (web : Surroundings) (platform : Platform) (files : FileSystem) : (web.on platform files).Typed := by
  intro webRoot path contentType data found
  obtain ⟨place, _, fetched⟩ := Option.map_eq_some_iff.mp found
  cases place with
  | none => cases fetched
  | some filePath =>
      rw [Option.elim_some, fetch] at fetched
      split at fetched
      · cases fetched
      · split at fetched
        · cases fetched
          exact content_types_typed _
        · cases fetched
        · cases fetched

section

variable (web : Surroundings)

theorem error_formed (code : Nat) (message : Text) (single : '\n' ∉ message) : Formed web (sendHttpError code message) where
  status member := by
    rcases List.mem_append.mp member with digit | inside
    · exact absurd (decimal_digits _ _ digit) (by decide)
    · rcases List.mem_cons.mp inside with same | inside
      · exact absurd same (by decide)
      · exact single inside
  contentType := (by decide : '\n' ∉ "text/html".toList)
  headers := .inl rfl

theorem response_formed (body : List UInt8) (contentType : Text) (single : '\n' ∉ contentType) :
    Formed web (sendHttpResponse web body contentType) where
  status := (by decide : '\n' ∉ "200 OK".toList)
  contentType := single
  headers := .inr rfl

variable (typed : web.Typed) (ring : RingParams) (reader : RingReader)

include typed in
theorem static_file_formed (path : Text) (response : Response) (served : serveStaticFile web path = some response) : Formed web response := by
  obtain ⟨found, isFound, rfl⟩ := Option.map_eq_some_iff.mp served
  cases found with
  | outside => exact error_formed web _ _ (by decide)
  | missing => exact error_formed web _ _ (by decide)
  | unreadable => exact error_formed web _ _ (by decide)
  | file contentType data => exact response_formed web data contentType (typed _ _ contentType data isFound)

theorem ring_info_formed (response : Response) (served : serveRingInfo web ring reader = some response) : Formed web response := by
  obtain ⟨streams, _, rfl⟩ := Option.map_eq_some_iff.mp served
  exact response_formed web _ _ (by decide)

theorem stream_list_formed (response : Response) (served : serveStreamList web ring reader = some response) : Formed web response := by
  obtain ⟨streams, _, rfl⟩ := Option.map_eq_some_iff.mp served
  exact response_formed web _ _ (by decide)

include typed in
theorem handle_get_formed (path : Text) (response : Response) (served : handleGet web ring reader path = some response) :
    Formed web response := by
  rw [handleGet] at served
  split at served
  · split at served
    · exact ring_info_formed web ring reader response served
    · exact static_file_formed web typed path response served
  · split at served
    · exact ring_info_formed web ring reader response served
    · split at served
      · exact stream_list_formed web ring reader response served
      · exact static_file_formed web typed path response served

theorem handle_post_formed (clock : Nat → NsTime) (path request : Text) (outcome : Outcome)
    (handled : handlePost web clock ring path request = some outcome) : ∀ response ∈ outcome.sent, Formed web response := by
  have accepted := response_formed web (encodeASCII "OK".toList) "text/plain".toList (by decide)
  rw [handlePost] at handled
  split at handled
  · split at handled
    · cases handled
      exact fun response member => by cases member
    · next body _ =>
      split at handled
      · cases handled
        exact List.forall_mem_singleton.mpr accepted
      · obtain ⟨written, _, rfl⟩ := Option.map_eq_some_iff.mp handled
        exact List.forall_mem_singleton.mpr accepted
  · cases handled
    exact List.forall_mem_singleton.mpr (error_formed web _ _ (by decide))

include typed in
theorem handle_request_formed (clock : Nat → NsTime) (recvBuffer : List UInt8) (outcome : Outcome)
    (handled : handleRequest web clock ring reader recvBuffer = some outcome) : ∀ response ∈ outcome.sent, Formed web response := by
  rw [handleRequest] at handled
  split at handled
  · cases handled
    exact fun response member => by cases member
  · split at handled
    · next method path behind _ =>
      split at handled
      · obtain ⟨response, served, rfl⟩ := Option.map_eq_some_iff.mp handled
        exact List.forall_mem_singleton.mpr (handle_get_formed web typed ring reader path response served)
      · split at handled
        · exact handle_post_formed web ring clock path _ outcome handled
        · cases handled
          exact List.forall_mem_singleton.mpr (error_formed web _ _ (by decide))
    · cases handled
      exact List.forall_mem_singleton.mpr (error_formed web _ _ (by decide))

include typed in
theorem answer_formed (clock : Nat → Nat → NsTime) (between : Nat → RingParams → RingParams) (serving : Serving) (nread : Nat)
    (recvBuffer : List UInt8) (before : ∀ response ∈ serving.sent, Formed web response) :
    ∀ response ∈ (answer web clock between serving nread recvBuffer).1.sent, Formed web response := by
  rw [answer]
  cases handled : handleRequest web (clock serving.count) (between serving.count serving.ring) serving.reader recvBuffer with
  | none => exact before
  | some outcome =>
      exact List.forall_mem_append.mpr ⟨before, handle_request_formed web typed _ _ _ recvBuffer outcome handled⟩

theorem headers_single (httpHeaders : Option Text) (oneLine : '\n' ∉ httpHeaders.getD []) : ∀ header ∈ headersOf httpHeaders, '\n' ∉ header := by
  intro header isHeader member
  obtain ⟨piece, isPiece, rfl⟩ := List.mem_map.mp isHeader
  have inPiece : '\n' ∈ piece := (List.dropWhile_suffix _).subset ((List.rdropWhile_prefix _ _).subset member)
  have inPieces := List.mem_flatten.mpr ⟨piece, isPiece, inPiece⟩
  rw [pieces_flatten] at inPieces
  exact oneLine (List.mem_of_mem_filter inPieces)

-- The bytes of a session are its responses, one after the other, unless a blank piece of
-- the configured headers ends the head of one.
theorem responses_delimited (web : Surroundings) (platform : Platform) (files : FileSystem) (httpHeaders : Option Text)
    (oneLine : '\n' ∉ httpHeaders.getD []) (clock : Nat → Nat → NsTime) (between : Nat → RingParams → RingParams) (size rounds : Nat)
    (ring : RingParams) (reader : RingReader) (socket : List Receipt) (final : LineLoop Serving)
    (ran : lineTurns (answer (web.configured platform files httpHeaders) clock between) size rounds (lineStart (fresh ring reader) socket) =
      some final) :
    decodeResponses (final.session.sent.flatMap Response.bytes) = some (final.session.sent.map Response.decoded) ↔
      (∀ response ∈ final.session.sent, response.headers = []) ∨ [] ∉ headersOf httpHeaders := by
  have typed : (web.configured platform files httpHeaders).Typed := files_typed web platform files
  have formed : ∀ response ∈ final.session.sent, Formed (web.configured platform files httpHeaders) response :=
    turns_keep _ size (fun serving => ∀ response ∈ serving.sent, Formed (web.configured platform files httpHeaders) response)
      (fun serving nread buffer before => answer_formed _ typed clock between serving nread buffer before) rounds _ final ran
      (fun response member => by cases member)
  have fits : ∀ response ∈ final.session.sent, ∀ line ∈ response.headLines, headFormat.Fits line :=
    fun response member => head_lines_fit _ response (formed response member) (headers_single httpHeaders oneLine)
  rw [decodeResponses, responses_read _ fits _ (Nat.le_refl _)]
  constructor
  · intro whole
    by_cases blank : [] ∈ headersOf httpHeaders
    · refine .inl fun response member => ?_
      rcases (formed response member).headers with none | configured
      · exact none
      · exact absurd (configured ▸ blank) ((head_lines_whole response).mp (whole response member))
    · exact .inr blank
  · intro good response member
    apply (head_lines_whole response).mpr
    rcases good with plain | apart
    · rw [plain response member]
      exact List.not_mem_nil
    · rcases (formed response member).headers with none | configured
      · rw [none]
        exact List.not_mem_nil
      · rw [configured]
        exact apart

end

end

def threeRequests : List Receipt :=
  [.bytes (encodeASCII "GET /streams HTTP/1.1\r\n".toList), .bytes (encodeASCII "GET /key HTTP/1.1\r\n".toList),
    .bytes (encodeASCII "PUT /key HTTP/1.1\r\n".toList)]

def servedThree : Option (LineLoop Serving) :=
  lineTurns (answer (noFiles.configured appPlatform (fun _ => none) (some "X-A: 1; X-B: 2".toList)) (fun _ _ => ⟨5⟩) fun _ ring => ring)
    1280 9 (lineStart (fresh (writtenRing fourSlotRing threeBytes) anyReader) threeRequests)

theorem responses_delimited_three_requests : ∃ final, servedThree = some final ∧
    final.session.sent.map (fun response => (response.headers, response.body)) =
      [(["X-A: 1".toList, "X-B: 2".toList], encodeASCII "B\nA\n".toList),
        ([], encodeASCII "<html><body><h1>404 Not Found</h1></body></html>".toList),
        ([], encodeASCII "<html><body><h1>405 Method Not Allowed</h1></body></html>".toList)] ∧
    (decodeResponses (final.session.sent.flatMap Response.bytes) = some (final.session.sent.map Response.decoded) ↔
      (∀ response ∈ final.session.sent, response.headers = []) ∨ [] ∉ headersOf (some "X-A: 1; X-B: 2".toList)) := by
  have computed : servedThree.map (fun final => final.session.sent.map fun response => (response.headers, response.body)) =
      some [(["X-A: 1".toList, "X-B: 2".toList], encodeASCII "B\nA\n".toList),
        ([], encodeASCII "<html><body><h1>404 Not Found</h1></body></html>".toList),
        ([], encodeASCII "<html><body><h1>405 Method Not Allowed</h1></body></html>".toList)] := by
    decide +kernel
  obtain ⟨final, ran, bodies⟩ := Option.map_eq_some_iff.mp computed
  exact ⟨final, ran, bodies, responses_delimited noFiles appPlatform (fun _ => none) (some "X-A: 1; X-B: 2".toList) (by decide)
    (fun _ _ => ⟨5⟩) (fun _ ring => ring) 1280 9 (writtenRing fourSlotRing threeBytes) anyReader threeRequests final ran⟩

end RingServer.Http
