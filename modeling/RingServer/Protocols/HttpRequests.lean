import Mathlib.Data.List.Infix
import RingServer.Net.OneLine
import RingServer.Protocols.HttpProtocol
import RingServer.Ring.Run

set_option autoImplicit false

namespace RingServer.Http

open Library Net

structure HttpRequest where
  line : List UInt8
  headers : List (List UInt8)
  body : List UInt8
  nonempty : line ≠ []
  unbroken : Unbroken line
  plain : ∀ header ∈ headers, header ≠ [] ∧ Unbroken header

def HttpRequest.behind (request : HttpRequest) : List UInt8 :=
  (request.headers.flatMap (· ++ [13, 10])) ++ 13 :: 10 :: request.body

def HttpRequest.bytes (request : HttpRequest) : List UInt8 := request.line ++ 13 :: 10 :: request.behind

-- HandleRequest finds a zero behind the request line.
def words (line : List UInt8) : List Text := requestLine (decodeASCII (line ++ [0]))

section

variable (web : Surroundings) (clock : Nat → Nat → NsTime) (between : Nat → RingParams → RingParams) (size : Nat) (ring : RingParams)
  (reader : RingReader)

def fresh : Serving := ⟨0, ring, reader, [], []⟩

-- In every arrival the request line is all that is handled, this is the one response,
-- and there is no more than one write.
def AnsweredBy (request : HttpRequest) (response : Response) : Prop :=
  ∀ socket rounds final, bytesOf socket = request.bytes → socket.length + request.bytes.length < rounds →
    lineTurns (answer web clock between) size rounds (lineStart (fresh ring reader) socket) = some final →
      final.dispatched = [request.line] ∧ final.session.sent = [response] ∧ final.session.written.length ≤ 1

def HandledOnce (request : HttpRequest) : Prop :=
  ∃ response, chosen web (between 0 ring) reader (words request.line) = some response ∧
    AnsweredBy web clock between size ring reader request response

theorem decoded_plain (line : List UInt8) (unbroken : Unbroken line) : '\n' ∉ decodeASCII (line ++ [0]) := by
  intro member
  obtain ⟨b, inside, isNewline⟩ := List.mem_map.mp member
  have isFeed : b = 10 := (decoded_char b '\n' (by decide) (by decide)).mp isNewline
  rcases List.mem_append.mp inside with inLine | zero
  · have goesOn := unbroken b inLine
    rw [isFeed] at goesOn
    cases goesOn
  · rw [isFeed] at zero
    exact absurd (List.mem_singleton.mp zero) (by decide)

theorem first_request_line (line rest : List UInt8) (unbroken : Unbroken line) (behind : rest = [] ∨ ∃ more, rest = 10 :: more) :
    ∃ others, requestLines (decodeASCII (line ++ 0 :: rest)) = decodeASCII (line ++ [0]) :: others := by
  have plain : ∀ c ∈ decodeASCII (line ++ [0]), (decide (c = '\n')) = false := by
    intro c member
    exact decide_eq_false fun same => decoded_plain line unbroken (same ▸ member)
  have nonempty : decodeASCII (line ++ [0]) ≠ [] := by
    rw [decodeASCII, List.map_append]
    exact List.append_ne_nil_of_right_ne_nil _ (List.cons_ne_nil _ _)
  have alone := pieces_plain (fun c => decide (c = '\n')) _ plain nonempty
  rcases behind with rfl | ⟨more, rfl⟩
  · exact ⟨[], alone⟩
  · have split : decodeASCII (line ++ 0 :: 10 :: more) = decodeASCII (line ++ [0]) ++ '\n' :: decodeASCII more := by
      rw [List.append_cons line 0 (10 :: more), decodeASCII, List.map_append]
      rfl
    rw [split, requestLines, pieces_sep _ _ _ '\n' (by decide), alone]
    exact ⟨_, rfl⟩

theorem handle_request_line (now : Nat → NsTime) (line rest : List UInt8) (unbroken : Unbroken line)
    (behind : rest = [] ∨ ∃ more, rest = 10 :: more) (noPost : ¬ Submits (words line)) :
    handleRequest web now ring reader (line ++ 0 :: rest) = (chosen web ring reader (words line)).map (.only ring) := by
  obtain ⟨others, lines⟩ := first_request_line line rest unbroken behind
  have parts : requestLine (decodeASCII (line ++ 0 :: rest)) = words line := by
    obtain ⟨others', lines'⟩ := first_request_line line [] unbroken (.inl rfl)
    rw [requestLine, lines, words, requestLine, lines', List.headD_cons, List.headD_cons]
  rw [handleRequest, lines, parts, if_neg (by rw [List.isEmpty_cons]; decide)]
  rcases split : words line with _ | ⟨method, _ | ⟨path, tail⟩⟩
  · rfl
  · rfl
  · rw [chosen]
    dsimp only
    by_cases get : toUpperInvariant method = "GET".toList
    · rw [if_pos get, if_pos get]
    rw [if_neg get, if_neg get]
    by_cases post : toUpperInvariant method = "POST".toList
    · have other : ¬ (path = "/data".toList ∨ path = "/dl".toList) := fun data => noPost ⟨method, path, tail, split, post, data⟩
      rw [if_pos post, if_pos post, handlePost, if_neg other, if_neg other]
      rfl
    · rw [if_neg post, if_neg post]
      rfl

theorem submission_alone (newLines : ∀ text value, '\n' ∈ value → '\n' ∉ text → web.indexOf text value = none) (now : Nat → NsTime)
    (line : List UInt8) (unbroken : Unbroken line) (submits : Submits (words line)) :
    handleRequest web now ring reader (line ++ [0]) = some ⟨ring, [], []⟩ := by
  obtain ⟨others, lines⟩ := first_request_line line [] unbroken (.inl rfl)
  obtain ⟨method, path, tail, isWords, post, data⟩ := submits
  have parts : requestLine (decodeASCII (line ++ [0])) = method :: path :: tail := isWords
  have noBody : bodyOf web (decodeASCII (line ++ [0])) = none := by
    have plain := decoded_plain line unbroken
    rw [bodyOf, newLines _ _ (by decide) plain, newLines _ _ (by decide) plain]
    rfl
  have notGet : toUpperInvariant method ≠ "GET".toList := by
    rw [post]
    decide
  rw [handleRequest, lines, parts]
  dsimp only
  rw [if_neg (by rw [List.isEmpty_cons]; decide), if_neg notGet, if_pos post, handlePost, if_pos data, noBody]

theorem settles_once (serving : Serving) (line : List UInt8) (unbroken : Unbroken line) (noPost : ¬ Submits (words line))
    (response : Response) (chooses : chosen web (between serving.count serving.ring) serving.reader (words line) = some response) :
    Settles (answer web clock between) serving
      { serving with
        count := serving.count + 1
        ring := between serving.count serving.ring
        sent := serving.sent ++ [response]
        written := serving.written ++ [] } line := by
  intro rest behind
  rw [answer, handle_request_line web _ _ _ line rest unbroken behind noPost, chooses]
  rfl

structure Begun (request : HttpRequest) (loop : LineLoop Serving) : Prop where
  session : loop.session = (answer web clock between (fresh ring reader) request.line.length (request.line ++ [0])).1
  ended : loop.ended = (answer web clock between (fresh ring reader) request.line.length (request.line ++ [0])).2
  quiet : loop.socketErr ≠ -1
  conn : loop.conn = ⟨[], byteByByte (10 :: request.behind)⟩
  dispatched : loop.dispatched = [request.line]

theorem begun (request : HttpRequest) (fits : request.line.length < size) : ∃ n loop,
    lineTurns (answer web clock between) size n (lineStart (fresh ring reader) (byteByByte request.bytes)) = some loop ∧
      Begun web clock between ring reader request loop := by
  obtain ⟨n, ran⟩ := byte_next_line (answer web clock between) size (lineStart (fresh ring reader) (byteByByte request.bytes)) rfl []
    request.line (10 :: request.behind) 13 rfl (fun _ member => absurd member List.not_mem_nil) request.nonempty request.unbroken fits rfl
  exact ⟨n, _, ran, rfl, rfl, (by decide : (0 : Int) ≠ -1), rfl, rfl⟩

theorem once_fits (request : HttpRequest) (positive : 0 < size) (once : HandledOnce web clock between size ring reader request) :
    request.line.length < size := by
  obtain ⟨response, chooses, all⟩ := once
  by_contra long
  have none : NoLine size request.bytes :=
    overlong_no_line size request.line (10 :: request.behind) 13 request.nonempty request.unbroken rfl (Nat.le_of_not_lt long)
  obtain ⟨final, ran⟩ := byte_turns (answer web clock between) size positive
    ((byteByByte request.bytes).length + request.bytes.length + 1)
    (lineStart (fresh ring reader) (byteByByte request.bytes)) request.bytes (by decide : (0 : Int) ≠ -1) rfl
  have dispatched := (all _ _ final (bytes_of_byte_by_byte _) (Nat.lt_succ_self _) ran).1
  have nothing := (no_line_turns (answer web clock between) size _ _ final (Nat.zero_le _)
    (by rw [Net.streamOf, lineStart, bytes_of_byte_by_byte]; exact none) ran).2
  rw [nothing] at dispatched
  cases dispatched

theorem once_from (request : HttpRequest) (positive : 0 < size) (response : Response)
    (all : AnsweredBy web clock between size ring reader request response) (n : Nat) (loop : LineLoop Serving) (rest : List UInt8)
    (ran : lineTurns (answer web clock between) size n (lineStart (fresh ring reader) (byteByByte request.bytes)) = some loop)
    (quiet : loop.socketErr ≠ -1) (conn : loop.conn = ⟨[], byteByByte rest⟩) :
    ∃ m final, lineTurns (answer web clock between) size m loop = some final ∧ final.dispatched = [request.line] ∧
      final.session.sent = [response] := by
  obtain ⟨final, goesOn⟩ := byte_turns (answer web clock between) size positive
    ((byteByByte request.bytes).length + request.bytes.length + 1) loop rest quiet conn
  have whole := line_turns_append (answer web clock between) size n ((byteByByte request.bytes).length + request.bytes.length + 1)
    (lineStart (fresh ring reader) (byteByByte request.bytes))
  rw [ran, Option.bind_some, goesOn] at whole
  have same := all _ _ final (bytes_of_byte_by_byte _) (Nat.lt_of_lt_of_le (Nat.lt_succ_self _) (Nat.le_add_left _ n)) whole
  exact ⟨_, final, goesOn, same.1, same.2.1⟩

theorem once_no_post (request : HttpRequest) (positive : 0 < size)
    (newLines : ∀ text value, '\n' ∈ value → '\n' ∉ text → web.indexOf text value = none)
    (once : HandledOnce web clock between size ring reader request) : ¬ Submits (words request.line) := by
  intro submits
  obtain ⟨n, loop, first, begun⟩ := begun web clock between size ring reader request
    (once_fits web clock between size ring reader request positive once)
  obtain ⟨response, chooses, all⟩ := once
  obtain ⟨m, final, ran, dispatched, sent⟩ := once_from web clock between size ring reader request positive response all n loop _
    first begun.quiet begun.conn
  have idle := turns_idle (answer web clock between) size m loop final ran (dispatched.trans begun.dispatched.symm)
  have unanswered := submission_alone web (between 0 ring) reader newLines (clock 0) request.line request.unbroken submits
  rw [idle, begun.session, answer, fresh, unanswered] at sent
  cases sent

theorem once_no_line (request : HttpRequest) (positive : 0 < size) (noPost : ¬ Submits (words request.line))
    (once : HandledOnce web clock between size ring reader request) : NoLine size request.behind := by
  obtain ⟨n, loop, first, begun⟩ := begun web clock between size ring reader request
    (once_fits web clock between size ring reader request positive once)
  obtain ⟨response, chooses, all⟩ := once
  intro blank line byte rest behind isBlank nonempty unbroken ends
  by_contra short
  have settled := settles_once web clock between (fresh ring reader) request.line request.unbroken noPost response chooses []
    (.inl rfl)
  have goesOn : loop.ended = false := by rw [begun.ended, settled]
  have conn : loop.conn = ⟨[], byteByByte (10 :: blank ++ (line ++ byte :: rest))⟩ := by rw [begun.conn, behind, List.cons_append]
  obtain ⟨m, second⟩ := byte_next_line (answer web clock between) size loop goesOn (10 :: blank) line rest byte conn
    (List.forall_mem_cons.mpr ⟨rfl, isBlank⟩) nonempty unbroken (Nat.lt_of_not_le short) ends
  have both := line_turns_append (answer web clock between) size n m (lineStart (fresh ring reader) (byteByByte request.bytes))
  rw [first, Option.bind_some, second] at both
  obtain ⟨k, final, ran, dispatched, _⟩ := once_from web clock between size ring reader request positive response all (n + m) _ _
    both begun.quiet rfl
  have before := turns_dispatched (answer web clock between) size k _ final ran
  rw [dispatched, begun.dispatched] at before
  exact absurd before.length_le (Nat.not_succ_le_self 1)

theorem handled_once (request : HttpRequest) (positive : 0 < size)
    (newLines : ∀ text value, '\n' ∈ value → '\n' ∉ text → web.indexOf text value = none) :
    HandledOnce web clock between size ring reader request ↔
      request.line.length < size ∧ ¬ Submits (words request.line) ∧
        (chosen web (between 0 ring) reader (words request.line)).isSome ∧ NoLine size request.behind := by
  constructor
  · intro once
    have noPost := once_no_post web clock between size ring reader request positive newLines once
    exact ⟨once_fits web clock between size ring reader request positive once, noPost,
      Option.isSome_iff_exists.mpr ⟨once.choose, once.choose_spec.1⟩,
      once_no_line web clock between size ring reader request positive noPost once⟩
  · rintro ⟨fits, noPost, answered, none⟩
    obtain ⟨response, chooses⟩ := Option.isSome_iff_exists.mp answered
    refine ⟨response, chooses, fun socket rounds final stream enough ran => ?_⟩
    have one : OneLine size (Net.streamOf ⟨[], socket⟩) request.line request.behind := by
      refine ⟨?_, request.nonempty, request.unbroken, fits, none⟩
      rw [Net.streamOf, List.nil_append, stream]
      rfl
    have left : leftOver ⟨[], socket⟩ < rounds := by
      rw [leftOver, Net.streamOf, List.nil_append, stream]
      exact enough
    have settles := settles_once web clock between (fresh ring reader) request.line request.unbroken noPost response chooses
    obtain ⟨session, dispatched⟩ := one_line_turns (answer web clock between) size rounds _ final request.line request.behind _ rfl
      (Nat.zero_le _) one settles left ran
    rw [session]
    exact ⟨dispatched, rfl, Nat.zero_le 1⟩

end

theorem blank_no_line (size : Nat) (stream : List UInt8) (blank : Blank stream) : NoLine size stream := by
  rintro before line byte rest rfl isBlank nonempty unbroken ends
  obtain ⟨first, more, rfl⟩ := List.exists_cons_of_ne_nil nonempty
  have first' := blank first (List.mem_append_right before List.mem_cons_self)
  rw [unbroken first List.mem_cons_self] at first'
  cases first'

def ordinalIndexOf (text value : Text) : Option Nat := text.tails.findIdx? value.isPrefixOf

theorem ordinal_new_lines (text value : Text) (inValue : '\n' ∈ value) (notInText : '\n' ∉ text) :
    ordinalIndexOf text value = none := by
  refine List.findIdx?_eq_none_iff.mpr fun tail member => eq_false_of_ne_true fun isPrefix => ?_
  have inTail := (List.isPrefixOf_iff_prefix.mp isPrefix).subset inValue
  exact notInText (((List.mem_tails tail text).mp member).subset inTail)

def noFiles : Surroundings where
  startsWith text value := value.isPrefixOf text
  indexOf := ordinalIndexOf
  webRoot := none
  lookUp _ _ := some .missing
  infoPage _ _ := []
  httpHeaders := []
  newLine := ['\n']

def anyReader : RingReader := ⟨-1, Constants.ringIdNone, NsTime.unset, NsTime.unset, NsTime.unset, none, none, none⟩

def bareGet : HttpRequest where
  line := encodeASCII "GET /none HTTP/1.1".toList
  headers := []
  body := []
  nonempty := by decide +kernel
  unbroken := by decide +kernel
  plain := by decide +kernel

theorem bare_get_no_post : ¬ Submits (words bareGet.line) := by
  have isWords : words bareGet.line = ["GET".toList, "/none".toList, "HTTP/1.1".toList ++ [nul]] := by decide +kernel
  rintro ⟨method, path, behind, same, post, _⟩
  have isGet : "GET".toList = method := (List.cons.inj (isWords.symm.trans same)).1
  rw [← isGet] at post
  exact absurd post (by decide)

theorem bare_get_handled_once :
    HandledOnce noFiles (fun _ _ => ⟨5⟩) (fun _ ring => ring) 1280 twoSlotRing anyReader bareGet :=
  (handled_once noFiles (fun _ _ => ⟨5⟩) (fun _ ring => ring) 1280 twoSlotRing anyReader bareGet (by decide) ordinal_new_lines).mpr
    ⟨by decide, bare_get_no_post, by decide +kernel, blank_no_line 1280 _ (by decide +kernel)⟩

def getWithHost : HttpRequest := { bareGet with headers := [encodeASCII "Host: x".toList], plain := by decide +kernel }

theorem header_answered : ∃ final,
    lineTurns (answer noFiles (fun _ _ => ⟨5⟩) fun _ ring => ring) 1280 40
        (lineStart (fresh twoSlotRing anyReader) [.bytes getWithHost.bytes]) = some final ∧
      final.dispatched = [encodeASCII "GET /none HTTP/1.1".toList, encodeASCII "Host: x".toList] ∧
      final.session.sent = [sendHttpError 404 "Not Found".toList, sendHttpError 405 "Method Not Allowed".toList] :=
  ⟨_, rfl, rfl, rfl⟩

theorem get_with_host_not_once :
    ¬ HandledOnce noFiles (fun _ _ => ⟨5⟩) (fun _ ring => ring) 1280 twoSlotRing anyReader getWithHost := by
  rintro ⟨response, _, all⟩
  obtain ⟨final, ran, dispatched, _⟩ := header_answered
  have once := (all _ _ final (List.append_nil _) (by decide) ran).1
  rw [dispatched] at once
  exact absurd (congrArg List.length once) (by decide)

end RingServer.Http
