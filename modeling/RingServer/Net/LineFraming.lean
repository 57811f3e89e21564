import RingServer.Net.FramingRun
import RingServer.Net.RecvLine

set_option autoImplicit false

namespace RingServer.Net

def Blank (bytes : List UInt8) : Prop := ∀ byte ∈ bytes, isTerminator byte = true

def Unbroken (bytes : List UInt8) : Prop := ∀ byte ∈ bytes, isTerminator byte = false

instance (bytes : List UInt8) : Decidable (Blank bytes) := inferInstanceAs (Decidable (∀ byte ∈ bytes, _))

instance (bytes : List UInt8) : Decidable (Unbroken bytes) := inferInstanceAs (Decidable (∀ byte ∈ bytes, _))

theorem split_unbroken (bytes : List UInt8) (unbroken : Unbroken bytes) : bytes.splitOnP isTerminator = [bytes] :=
  List.splitOnP_eq_singleton unbroken

theorem split_line (line rest : List UInt8) (byte : UInt8) (unbroken : Unbroken line) (ends : isTerminator byte = true) :
    ∃ next more, rest.splitOnP isTerminator = next :: more ∧
      (line ++ byte :: rest).splitOnP isTerminator = line :: next :: more := by
  obtain ⟨next, more, pieces⟩ := List.exists_cons_of_ne_nil (List.splitOnP_ne_nil isTerminator rest)
  refine ⟨next, more, pieces, ?_⟩
  rw [List.splitOnP_append_cons_of_forall_mem unbroken byte ends, pieces]

structure Head (nread : Nat) (buffer line : List UInt8) (byte : UInt8) (rest : List UInt8) : Prop where
  buffer : buffer = line ++ byte :: rest
  unbroken : Unbroken line
  ends : isTerminator byte = true
  nread : nread = line.length

theorem find_line (buffer : List UInt8) :
    (0 < (buffer.findIdx? isTerminator).getD 0 ∧
        ∃ line byte rest, Head ((buffer.findIdx? isTerminator).getD 0) buffer line byte rest) ∨
      (buffer.findIdx? isTerminator).getD 0 = 0 ∧
        (Unbroken buffer ∨ ∃ byte rest, buffer = byte :: rest ∧ isTerminator byte = true) := by
  cases found : buffer.findIdx? isTerminator with
  | none => exact .inr ⟨rfl, .inl fun byte member => List.findIdx?_eq_none_iff.mp found byte member⟩
  | some i =>
      obtain ⟨inside, ends, before⟩ := List.findIdx?_eq_some_iff_getElem.mp found
      have split : buffer = buffer.take i ++ buffer[i] :: buffer.drop (i + 1) := by
        rw [List.getElem_cons_drop, List.take_append_drop]
      cases i with
      | zero => exact .inr ⟨rfl, .inr ⟨buffer[0], buffer.drop 1, split, ends⟩⟩
      | succ i =>
          refine .inl ⟨Nat.succ_pos i, _, _, _, split, ?_, ends, (List.length_take_of_le (Nat.le_of_lt inside)).symm⟩
          intro byte member
          obtain ⟨j, below, rfl⟩ := List.mem_take_iff_getElem.mp member
          exact eq_false_of_ne_true (before j (by omega))

theorem blank_before (buffer : List UInt8) : Blank (buffer.takeWhile isTerminator) :=
  List.all_eq_true.mp List.all_takeWhile

section

variable (size : Nat)

structure Passes (conn conn' : Connection) (blank : List UInt8) : Prop where
  stream : streamOf conn = blank ++ streamOf conn'
  isBlank : Blank blank
  few : blank.length < 10
  room : conn'.recvBuffer.length ≤ size
  less : conn'.socket.length ≤ conn.socket.length

def FailSpec (conn : Connection) (code : Int) : Prop :=
  (code = -1 ∧ ∃ blank rest, streamOf conn = blank ++ rest ∧ Blank blank ∧ 10 ≤ blank.length) ∨
    code = -2 ∧ ∃ blank tail, streamOf conn = blank ++ tail ∧ Blank blank ∧ blank.length < 10 ∧ Unbroken tail

def ReceiveSpec (conn : Connection) (nread : Nat) (conn' : Connection) (blank : List UInt8) (alone : Prop) : Prop :=
  Passes size conn conn' blank ∧
    ((0 < nread ∧ ∃ line byte rest, Head nread conn'.recvBuffer line byte rest) ∨
      nread = 0 ∧ (conn'.socket.length < conn.socket.length + blank.length ∨ alone))

def LineSpec (conn : Connection) (alone : Prop) : LineReceipt → Prop
  | .failed code => FailSpec conn code
  | .received nread conn' => ∃ blank, ReceiveSpec size conn nread conn' blank (conn' = conn ∧ alone)

theorem skip_empty_spec (conn : Connection) (room : conn.recvBuffer.length ≤ size) (result : LineReceipt)
    (ran : skipEmpty size conn = some result) : LineSpec size conn (Unbroken conn.recvBuffer) result := by
  have split : conn.recvBuffer.takeWhile isTerminator ++ conn.recvBuffer.dropWhile isTerminator = conn.recvBuffer :=
    List.takeWhile_append_dropWhile
  have blank := blank_before conn.recvBuffer
  rw [skipEmpty] at ran
  by_cases many : 10 ≤ (conn.recvBuffer.takeWhile isTerminator).length
  · rw [if_pos many] at ran
    cases ran
    have stream : streamOf conn = conn.recvBuffer.takeWhile isTerminator ++
        (conn.recvBuffer.dropWhile isTerminator ++ bytesOf conn.socket) := by
      rw [streamOf, ← List.append_assoc, split]
    exact .inl ⟨rfl, _, _, stream, blank, many⟩
  rw [if_neg many] at ran
  have few := Nat.lt_of_not_le many
  by_cases more : conn.recvBuffer.dropWhile isTerminator ≠ []
  · rw [if_pos more, searchLine] at ran
    cases ran
    have stream : streamOf conn = conn.recvBuffer.takeWhile isTerminator ++
        streamOf ⟨conn.recvBuffer.dropWhile isTerminator, conn.socket⟩ := by
      rw [streamOf, streamOf, ← List.append_assoc, split]
    have shorter : (conn.recvBuffer.dropWhile isTerminator).length ≤ size :=
      Nat.le_trans (List.dropWhile_suffix _).length_le room
    refine ⟨_, ⟨stream, blank, few, shorter, Nat.le_refl _⟩, ?_⟩
    rcases find_line (conn.recvBuffer.dropWhile isTerminator) with ⟨positive, found⟩ | ⟨none, rest⟩
    · exact .inl ⟨positive, found⟩
    · refine .inr ⟨none, ?_⟩
      rcases rest with unbroken | ⟨byte, rest, isBuffer, ends⟩
      · by_cases skips : conn.recvBuffer.takeWhile isTerminator = []
        · rw [skips, List.nil_append] at split
          rw [split] at unbroken ⊢
          exact .inr ⟨rfl, unbroken⟩
        · exact .inl (Nat.lt_add_of_pos_right (List.length_pos_of_ne_nil skips))
      · have first := List.head_dropWhile_not isTerminator more
        simp only [isBuffer, List.head_cons] at first
        rw [first] at ends
        cases ends
  · rw [if_neg more] at ran
    rw [Decidable.not_not.mp more, List.append_nil] at split
    have stream : streamOf conn = conn.recvBuffer.takeWhile isTerminator ++ bytesOf conn.socket := by rw [streamOf, split]
    obtain ⟨buffer, socket⟩ := conn
    cases socket with
    | nil =>
        cases ran
        exact .inr ⟨rfl, _, [], stream, blank, few, fun _ member => absurd member List.not_mem_nil⟩
    | cons receipt rest =>
        have fewer : rest.length < (receipt :: rest).length + (buffer.takeWhile isTerminator).length :=
          Nat.lt_of_lt_of_le (Nat.lt_succ_self _) (Nat.le_add_right _ _)
        cases receipt with
        | wouldBlock =>
            cases ran
            exact ⟨_, ⟨stream, blank, few, Nat.zero_le _, Nat.le_succ _⟩, .inr ⟨rfl, .inl fewer⟩⟩
        | bytes chunk =>
            dsimp only at ran
            by_cases given : Receivable size chunk
            · rw [if_pos given, searchLine] at ran
              cases ran
              refine ⟨_, ⟨stream, blank, few, given.2, Nat.le_succ _⟩, ?_⟩
              rcases find_line chunk with ⟨positive, found⟩ | ⟨none, _⟩
              · exact .inl ⟨positive, found⟩
              · exact .inr ⟨none, .inl fewer⟩
            · rw [if_neg given] at ran
              cases ran

theorem recv_line_spec (conn : Connection) (room : conn.recvBuffer.length ≤ size) (result : LineReceipt)
    (ran : recvLine size conn = some result) :
    LineSpec size conn (size ≤ conn.recvBuffer.length ∧ Unbroken conn.recvBuffer) result := by
  rw [recvLine] at ran
  by_cases keeps : conn.recvBuffer.any isTerminator = true ∨ size ≤ conn.recvBuffer.length
  · rw [if_pos keeps] at ran
    have spec := skip_empty_spec size conn room result ran
    cases result with
    | failed code => exact spec
    | received nread conn' =>
        obtain ⟨blank, passes, found⟩ := spec
        refine ⟨blank, passes, found.imp_right fun none => ⟨none.1, none.2.imp_right fun alone => ⟨alone.1, ?_, alone.2⟩⟩⟩
        rcases keeps with some | full
        · obtain ⟨byte, member, ends⟩ := List.any_eq_true.mp some
          rw [alone.2 byte member] at ends
          cases ends
        · exact full
  rw [if_neg keeps] at ran
  obtain ⟨noneEnds, space⟩ := not_or.mp keeps
  have unbroken : Unbroken conn.recvBuffer := by
    intro byte member
    exact eq_false_of_ne_true fun ends => noneEnds (List.any_eq_true.mpr ⟨byte, member, ends⟩)
  obtain ⟨buffer, socket⟩ := conn
  have nothing : Blank ([] : List UInt8) := fun _ member => absurd member List.not_mem_nil
  cases socket with
  | nil =>
      cases ran
      exact .inr ⟨rfl, [], buffer, List.append_nil buffer, nothing, Nat.succ_pos 9, unbroken⟩
  | cons receipt rest =>
      cases receipt with
      | wouldBlock =>
          cases ran
          exact ⟨[], ⟨rfl, nothing, Nat.succ_pos 9, room, Nat.le_succ _⟩, .inr ⟨rfl, .inl (Nat.lt_succ_self _)⟩⟩
      | bytes chunk =>
          dsimp only at ran
          by_cases given : Receivable (size - buffer.length) chunk
          · rw [if_pos given] at ran
            have stream : streamOf ⟨buffer, .bytes chunk :: rest⟩ = streamOf ⟨buffer ++ chunk, rest⟩ := by
              rw [streamOf, streamOf, bytes_of_bytes, List.append_assoc]
            have room' : (buffer ++ chunk).length ≤ size := by
              have fits := given.2
              rw [List.length_append]
              have below : buffer.length < size := Nat.lt_of_not_le space
              omega
            have spec := skip_empty_spec size ⟨buffer ++ chunk, rest⟩ room' result ran
            cases result with
            | failed code =>
                rw [LineSpec, FailSpec, stream]
                exact spec
            | received nread conn' =>
                obtain ⟨blank, passes, found⟩ := spec
                have less : conn'.socket.length < rest.length + 1 + blank.length :=
                  Nat.lt_of_le_of_lt passes.less (Nat.lt_of_lt_of_le (Nat.lt_succ_self _) (Nat.le_add_right _ _))
                exact ⟨blank, ⟨stream.trans passes.stream, passes.isBlank, passes.few, passes.room, Nat.le_succ_of_le passes.less⟩,
                  found.imp_right fun none => ⟨none.1, .inl less⟩⟩
          · rw [if_neg given] at ran
            cases ran

end

section

variable {Session : Type} (handle : Session → List UInt8 → Session × Bool) (size : Nat)

theorem expected_unbroken (session : Session) (empty : Nat) (tail : List UInt8) (unbroken : Unbroken tail) :
    expectedOf handle size session empty tail = ([], decide (size ≤ tail.length)) := by
  rw [expectedOf, split_unbroken tail unbroken, expectedLines]

theorem expected_empty (session : Session) (empty : Nat) (byte : UInt8) (rest : List UInt8) (ends : isTerminator byte = true) :
    expectedOf handle size session empty (byte :: rest) =
      if 10 ≤ empty + 1 then ([], true) else expectedOf handle size session (empty + 1) rest := by
  obtain ⟨next, more, pieces, whole⟩ := split_line [] rest byte (fun _ member => absurd member List.not_mem_nil) ends
  rw [expectedOf, expectedOf, pieces, ← List.nil_append (byte :: rest), whole, expectedLines, if_pos rfl]

theorem expected_line (session : Session) (empty : Nat) (line rest : List UInt8) (byte : UInt8) (nonempty : line ≠ [])
    (unbroken : Unbroken line) (ends : isTerminator byte = true) :
    expectedOf handle size session empty (line ++ byte :: rest) =
      if size ≤ line.length then ([], true)
      else if (handle session line).2 = true then ([line], false)
      else
        let behind := expectedOf handle size (handle session line).1 0 rest
        (line :: behind.1, behind.2) := by
  obtain ⟨next, more, pieces, whole⟩ := split_line line rest byte unbroken ends
  rw [expectedOf, whole, expectedLines, if_neg nonempty]
  simp only [expectedOf, pieces]

theorem expected_forgets (session : Session) (pieces : List (List UInt8)) (empty fewer : Nat) (less : fewer ≤ empty)
    (fine : (expectedLines handle size session empty pieces).2 = false) :
    expectedLines handle size session fewer pieces = expectedLines handle size session empty pieces := by
  induction pieces generalizing session empty fewer with
  | nil => rfl
  | cons line rest ih =>
      cases rest with
      | nil => rfl
      | cons next rest =>
          rw [expectedLines, expectedLines] at *
          by_cases isEmpty : line = []
          · rw [if_pos isEmpty] at fine ⊢
            rw [if_pos isEmpty]
            by_cases many : 10 ≤ empty + 1
            · rw [if_pos many] at fine
              cases fine
            · rw [if_neg many] at fine ⊢
              rw [if_neg (fun many' => many (Nat.le_trans many' (Nat.succ_le_succ less)))]
              exact ih session (empty + 1) (fewer + 1) (Nat.succ_le_succ less) fine
          · rw [if_neg isEmpty, if_neg isEmpty]

theorem expected_blank (session : Session) (empty : Nat) (blank rest : List UInt8) (isBlank : Blank blank)
    (fine : (expectedOf handle size session empty (blank ++ rest)).2 = false) :
    expectedOf handle size session empty (blank ++ rest) = expectedOf handle size session 0 rest ∧
      blank.length < 10 := by
  have counted :
      expectedOf handle size session empty (blank ++ rest) = expectedOf handle size session (empty + blank.length) rest ∧
        (blank ≠ [] → empty + blank.length < 10) := by
    induction blank generalizing empty with
    | nil => exact ⟨rfl, fun nonempty => absurd rfl nonempty⟩
    | cons byte blank ih =>
        rw [List.cons_append, expected_empty handle size session empty byte _ (isBlank byte List.mem_cons_self)] at fine ⊢
        by_cases many : 10 ≤ empty + 1
        · rw [if_pos many] at fine
          cases fine
        rw [if_neg many] at fine ⊢
        obtain ⟨same, few⟩ := ih (empty + 1) (fun _ member => isBlank _ (List.mem_cons_of_mem _ member)) fine
        rw [same, List.length_cons, Nat.add_assoc, Nat.add_comm 1]
        refine ⟨rfl, fun _ => ?_⟩
        by_cases none : blank = []
        · rw [none, List.length_nil]
          omega
        · have fewer := few none
          omega
  refine ⟨?_, ?_⟩
  · rw [counted.1] at fine ⊢
    exact (expected_forgets handle size session _ _ 0 (Nat.zero_le _) fine).symm
  · by_cases none : blank = []
    · rw [none]
      exact Nat.succ_pos 9
    · exact Nat.lt_of_le_of_lt (Nat.le_add_left _ _) (counted.2 none)

theorem unbroken_or_line (bytes : List UInt8) :
    Unbroken bytes ∨ ∃ line byte rest, bytes = line ++ byte :: rest ∧ Unbroken line ∧ isTerminator byte = true := by
  induction bytes with
  | nil => exact .inl fun _ member => absurd member List.not_mem_nil
  | cons byte bytes ih =>
      by_cases ends : isTerminator byte = true
      · exact .inr ⟨[], byte, bytes, rfl, fun _ member => absurd member List.not_mem_nil, ends⟩
      have goesOn := eq_false_of_ne_true ends
      rcases ih with unbroken | ⟨line, last, rest, rfl, unbroken, ends'⟩
      · exact .inl (List.forall_mem_cons.mpr ⟨goesOn, unbroken⟩)
      · exact .inr ⟨byte :: line, last, rest, rfl, List.forall_mem_cons.mpr ⟨goesOn, unbroken⟩, ends'⟩

theorem expected_overlong (session : Session) (empty : Nat) (buffer rest : List UInt8) (nonempty : buffer ≠ [])
    (unbroken : Unbroken buffer) (full : size ≤ buffer.length) :
    (expectedOf handle size session empty (buffer ++ rest)).2 = true := by
  rcases unbroken_or_line rest with unbroken' | ⟨line, byte, behind, rfl, unbroken', ends⟩
  · rw [expected_unbroken handle size session empty _ (List.forall_mem_append.mpr ⟨unbroken, unbroken'⟩)]
    exact decide_eq_true (by rw [List.length_append]; omega)
  · have whole : Unbroken (buffer ++ line) := List.forall_mem_append.mpr ⟨unbroken, unbroken'⟩
    have some : buffer ++ line ≠ [] := List.append_ne_nil_of_left_ne_nil nonempty _
    rw [← List.append_assoc, expected_line handle size session empty _ behind byte some whole ends,
      if_pos (by rw [List.length_append]; omega)]

theorem consumed_line (nread : Nat) (buffer line rest : List UInt8) (byte : UInt8) (head : Head nread buffer line byte rest) :
    ∃ blank, Blank blank ∧ rest = blank ++ buffer.drop (consumed nread buffer) := by
  have terminator : buffer[nread]? = some byte := by
    rw [head.buffer, head.nread, List.getElem?_append_right (Nat.le_refl _), Nat.sub_self, List.getElem?_cons_zero]
  have behind : buffer.drop (nread + 1) = rest := by
    rw [head.buffer, head.nread, List.drop_append, List.drop_of_length_le (Nat.le_succ _), Nat.add_sub_cancel_left]
    rfl
  have nothing : ∃ blank, Blank blank ∧ rest = blank ++ buffer.drop (nread + 1) :=
    ⟨[], fun _ member => absurd member List.not_mem_nil, behind.symm⟩
  have ends : byte = 10 ∨ byte = 13 := by
    have either := head.ends
    rw [isTerminator, Bool.or_eq_true, beq_iff_eq, beq_iff_eq] at either
    exact either
  rw [consumed, terminator]
  rcases ends with rfl | rfl
  · rw [if_pos rfl]
    exact nothing
  · rw [if_neg (by decide), if_pos rfl]
    by_cases pair : buffer[nread + 1]? = some 10
    · rw [if_pos pair]
      refine ⟨[10], fun byte member => ?_, ?_⟩
      · rw [List.mem_singleton.mp member]
        rfl
      · obtain ⟨inside, isFeed⟩ := List.getElem?_eq_some_iff.mp pair
        rw [← behind, List.drop_eq_getElem_cons inside, isFeed]
        rfl
    · rw [if_neg pair]
      exact nothing

theorem line_turns_ended {Other : Type} (answer : Other → Nat → List UInt8 → Other × Bool) (n : Nat) (loop : LineLoop Other)
    (ended : loop.ended = true) : lineTurns answer size n loop = some loop := by
  induction n with
  | zero => rfl
  | succ n ih =>
      rw [lineTurns, lineTurn, if_pos ended]
      exact ih

theorem line_turn_received {Other : Type} (answer : Other → Nat → List UInt8 → Other × Bool) (loop : LineLoop Other)
    (goesOn : loop.ended = false) :
    lineTurn answer size loop = (recvLine size loop.conn).map fun received =>
      match received with
      | .failed code => { loop with ended := true, socketErr := code }
      | .received nread conn => if 0 < nread then handOver answer nread conn loop else { loop with conn := conn } :=
  if_neg (goesOn ▸ Bool.false_ne_true)

def leftOver (conn : Connection) : Nat := conn.socket.length + (streamOf conn).length

def TurnSpec (left : Nat) (lines : List (List UInt8)) (next : LineLoop Session) : Prop :=
  next.socketErr ≠ -1 ∧
    ((next.ended = true ∧ next.dispatched = lines) ∨
      next.ended = false ∧ next.conn.recvBuffer.length ≤ size ∧ leftOver next.conn < left ∧
        (expectedOf handle size next.session 0 (streamOf next.conn)).2 = false ∧
        next.dispatched ++ (expectedOf handle size next.session 0 (streamOf next.conn)).1 = lines)

theorem hand_over_spec (nread : Nat) (buffer : List UInt8) (socket : List Receipt) (line rest : List UInt8)
    (byte : UInt8) (positive : 0 < nread) (room : buffer.length ≤ size) (head : Head nread buffer line byte rest)
    (loop : LineLoop Session) (quiet : loop.socketErr ≠ -1)
    (fine : (expectedOf handle size loop.session 0 (streamOf ⟨buffer, socket⟩)).2 = false) :
    TurnSpec handle size (leftOver ⟨buffer, socket⟩)
      (loop.dispatched ++ (expectedOf handle size loop.session 0 (streamOf ⟨buffer, socket⟩)).1)
      (handOver (byLine handle) nread ⟨buffer, socket⟩ loop) := by
  obtain ⟨behind, isBlank, consumes⟩ := consumed_line nread buffer line rest byte head
  have nonempty : line ≠ [] := List.ne_nil_of_length_pos (head.nread ▸ positive)
  have fits : ¬ size ≤ line.length := by
    rw [head.buffer, List.length_append, List.length_cons] at room
    omega
  have isLine : buffer.take nread = line := by rw [head.buffer, head.nread, List.take_left]
  have zeroed : (buffer.set nread 0).take nread = line := by rw [List.take_set_of_le (Nat.le_refl nread), isLine]
  have stream : streamOf ⟨buffer, socket⟩ = line ++ byte :: (behind ++ streamOf ⟨buffer.drop (consumed nread buffer), socket⟩) := by
    rw [streamOf, streamOf, ← List.append_assoc behind, ← consumes, head.buffer, List.append_assoc, List.cons_append]
  rw [leftOver, stream]
  rw [stream] at fine
  rw [expected_line handle size loop.session 0 line _ byte nonempty head.unbroken head.ends, if_neg fits] at fine ⊢
  rw [handOver, byLine, zeroed]
  by_cases closes : (handle loop.session line).2 = true
  · rw [if_pos closes]
    exact ⟨quiet, .inl ⟨closes, congrArg (loop.dispatched ++ [·]) isLine⟩⟩
  · rw [if_neg closes] at fine ⊢
    obtain ⟨same, _⟩ := expected_blank handle size (handle loop.session line).1 0 behind _ isBlank fine
    rw [same] at fine ⊢
    refine ⟨quiet, .inr ⟨eq_false_of_ne_true closes, ?_, ?_, fine, ?_⟩⟩
    · exact Nat.le_trans (List.drop_sublist _ _).length_le room
    · rw [leftOver, List.length_append, List.length_cons, List.length_append]
      dsimp only
      omega
    · rw [List.append_assoc, isLine]
      rfl

theorem line_turn_spec (loop next : LineLoop Session) (positive : 0 < size) (goesOn : loop.ended = false)
    (room : loop.conn.recvBuffer.length ≤ size) (quiet : loop.socketErr ≠ -1)
    (fine : (expectedOf handle size loop.session 0 (streamOf loop.conn)).2 = false)
    (ran : lineTurn (byLine handle) size loop = some next) :
    TurnSpec handle size (leftOver loop.conn)
      (loop.dispatched ++ (expectedOf handle size loop.session 0 (streamOf loop.conn)).1) next := by
  rw [line_turn_received size _ loop goesOn, Option.map_eq_some_iff] at ran
  obtain ⟨result, received, rfl⟩ := ran
  have spec := recv_line_spec size loop.conn room result received
  cases result with
  | failed code =>
      rcases spec with ⟨rfl, blank, rest, stream, isBlank, many⟩ | ⟨rfl, blank, tail, stream, isBlank, few, unbroken⟩
      · rw [stream] at fine
        have few := (expected_blank handle size loop.session 0 blank rest isBlank fine).2
        omega
      · refine ⟨(by decide : (-2 : Int) ≠ -1), .inl ⟨rfl, ?_⟩⟩
        show loop.dispatched = _
        rw [stream] at fine ⊢
        rw [(expected_blank handle size loop.session 0 blank tail isBlank fine).1,
          expected_unbroken handle size loop.session 0 tail unbroken, List.append_nil]
  | received nread conn' =>
      obtain ⟨blank, passes, found⟩ := spec
      have left : leftOver conn' + loop.conn.socket.length + blank.length = leftOver loop.conn + conn'.socket.length := by
        rw [leftOver, leftOver, passes.stream, List.length_append]
        omega
      have same :
          expectedOf handle size loop.session 0 (streamOf loop.conn) = expectedOf handle size loop.session 0 (streamOf conn') := by
        rw [passes.stream] at fine ⊢
        exact (expected_blank handle size loop.session 0 blank (streamOf conn') passes.isBlank fine).1
      rw [same] at fine ⊢
      rcases found with ⟨found, line, byte, rest, head⟩ | ⟨rfl, progress⟩
      · show TurnSpec handle size _ _ (if 0 < nread then _ else _)
        rw [if_pos found]
        obtain ⟨quiet', spec⟩ := hand_over_spec handle size nread conn'.recvBuffer conn'.socket line rest byte found passes.room
          head loop quiet fine
        refine ⟨quiet', spec.imp_right fun goesOn => ⟨goesOn.1, goesOn.2.1, ?_, goesOn.2.2.2⟩⟩
        have nearer : leftOver (handOver (byLine handle) nread conn' loop).conn < leftOver conn' := goesOn.2.2.1
        have less := passes.less
        omega
      · refine ⟨quiet, .inr ⟨goesOn, passes.room, ?_, fine, rfl⟩⟩
        show leftOver conn' < _
        rcases progress with less | ⟨isSame, full, unbroken⟩
        · omega
        · rw [isSame] at fine
          have nonempty : loop.conn.recvBuffer ≠ [] := List.ne_nil_of_length_pos (Nat.lt_of_lt_of_le positive full)
          have rejected := expected_overlong handle size loop.session 0 loop.conn.recvBuffer (bytesOf loop.conn.socket) nonempty
            unbroken full
          rw [streamOf, rejected] at fine
          cases fine

theorem line_turns_spec (n : Nat) (loop final : LineLoop Session) (positive : 0 < size) (goesOn : loop.ended = false)
    (room : loop.conn.recvBuffer.length ≤ size) (quiet : loop.socketErr ≠ -1)
    (fine : (expectedOf handle size loop.session 0 (streamOf loop.conn)).2 = false) (enough : leftOver loop.conn < n)
    (ran : lineTurns (byLine handle) size n loop = some final) :
    final.ended = true ∧ final.dispatched = loop.dispatched ++ (expectedOf handle size loop.session 0 (streamOf loop.conn)).1 ∧
      final.socketErr ≠ -1 := by
  induction n generalizing loop with
  | zero => exact absurd enough (Nat.not_lt_zero _)
  | succ n ih =>
      rw [lineTurns, Option.bind_eq_some_iff] at ran
      obtain ⟨next, turned, ran⟩ := ran
      obtain ⟨quiet', spec⟩ := line_turn_spec handle size loop next positive goesOn room quiet fine turned
      rcases spec with ⟨ended, lines⟩ | ⟨goesOn', room', nearer, fine', lines⟩
      · rw [line_turns_ended size (byLine handle) n next ended] at ran
        cases ran
        exact ⟨ended, lines, quiet'⟩
      · have rest := ih next goesOn' room' quiet' fine' (Nat.lt_of_lt_of_le nearer (Nat.le_of_lt_succ enough)) ran
        exact ⟨rest.1, rest.2.1.trans lines, rest.2.2⟩

end

end RingServer.Net
