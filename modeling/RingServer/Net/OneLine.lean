import RingServer.Net.ByteByByte

set_option autoImplicit false

namespace RingServer.Net

def NoLine (size : Nat) (stream : List UInt8) : Prop :=
  ∀ blank line byte rest, stream = blank ++ (line ++ byte :: rest) → Blank blank → line ≠ [] → Unbroken line →
    isTerminator byte = true → size ≤ line.length

theorem first_line_unique (line line' rest rest' : List UInt8) (byte byte' : UInt8) (unbroken : Unbroken line)
    (unbroken' : Unbroken line') (ends : isTerminator byte = true) (ends' : isTerminator byte' = true)
    (same : line ++ byte :: rest = line' ++ byte' :: rest') : line = line' ∧ byte = byte' ∧ rest = rest' := by
  obtain ⟨_, _, _, pieces⟩ := split_line line rest byte unbroken ends
  obtain ⟨_, _, _, pieces'⟩ := split_line line' rest' byte' unbroken' ends'
  rw [same, pieces'] at pieces
  obtain ⟨rfl, _⟩ := List.cons.inj pieces
  obtain ⟨sameByte, sameRest⟩ := List.cons.inj (List.append_cancel_left same)
  exact ⟨rfl, sameByte, sameRest⟩

theorem no_blank_before (blank rest line behind : List UInt8) (isBlank : Blank blank) (nonempty : line ≠ [])
    (unbroken : Unbroken line) (same : line ++ behind = blank ++ rest) : blank = [] := by
  cases blank with
  | nil => rfl
  | cons byte blank =>
      obtain ⟨first, more, rfl⟩ := List.exists_cons_of_ne_nil nonempty
      obtain ⟨rfl, _⟩ := List.cons.inj same
      have ends := isBlank first List.mem_cons_self
      rw [unbroken first List.mem_cons_self] at ends
      cases ends

theorem no_line_behind (size : Nat) (blank rest : List UInt8) (isBlank : Blank blank) (none : NoLine size (blank ++ rest)) :
    NoLine size rest := by
  rintro blank' line byte behind rfl isBlank' nonempty unbroken ends
  exact none (blank ++ blank') line byte behind (List.append_assoc _ _ _).symm (List.forall_mem_append.mpr ⟨isBlank, isBlank'⟩)
    nonempty unbroken ends

theorem no_line_before (size : Nat) (byte : UInt8) (rest : List UInt8) (blank : isTerminator byte = true) (none : NoLine size rest) :
    NoLine size (byte :: rest) := by
  intro blank' line byte' behind same isBlank nonempty unbroken ends
  cases blank' with
  | nil =>
      obtain ⟨first, more, rfl⟩ := List.exists_cons_of_ne_nil nonempty
      obtain ⟨rfl, _⟩ := List.cons.inj same
      rw [unbroken byte List.mem_cons_self] at blank
      cases blank
  | cons first blank' =>
      obtain ⟨_, same⟩ := List.cons.inj same
      exact none blank' line byte' behind same (List.forall_mem_cons.mp isBlank).2 nonempty unbroken ends

section

variable {Session : Type} (handle : Session → Nat → List UInt8 → Session × Bool) (size : Nat)

theorem no_line_turn (loop next : LineLoop Session) (room : loop.conn.recvBuffer.length ≤ size)
    (none : NoLine size (streamOf loop.conn)) (ran : lineTurn handle size loop = some next) :
    next.conn.recvBuffer.length ≤ size ∧ NoLine size (streamOf next.conn) ∧ next.session = loop.session ∧
      next.dispatched = loop.dispatched := by
  by_cases ended : loop.ended = true
  · rw [lineTurn, if_pos ended] at ran
    cases ran
    exact ⟨room, none, rfl, rfl⟩
  rw [line_turn_received size handle loop (eq_false_of_ne_true ended), Option.map_eq_some_iff] at ran
  obtain ⟨result, received, rfl⟩ := ran
  have spec := recv_line_spec size loop.conn room result received
  cases result with
  | failed code => exact ⟨room, none, rfl, rfl⟩
  | received nread conn' =>
      obtain ⟨blank, passes, found⟩ := spec
      rw [passes.stream] at none
      rcases found with ⟨positive, line, byte, rest, head⟩ | ⟨rfl, _⟩
      · have stream : streamOf conn' = line ++ byte :: (rest ++ bytesOf conn'.socket) := by
          rw [streamOf, head.buffer, List.append_assoc, List.cons_append]
        have long := none blank line byte _ (congrArg (blank ++ ·) stream) passes.isBlank
          (List.ne_nil_of_length_pos (head.nread ▸ positive)) head.unbroken head.ends
        have short := passes.room
        rw [head.buffer, List.length_append, List.length_cons] at short
        omega
      · exact ⟨passes.room, no_line_behind size blank _ passes.isBlank none, rfl, rfl⟩

theorem no_line_turns (n : Nat) (loop final : LineLoop Session) (room : loop.conn.recvBuffer.length ≤ size)
    (none : NoLine size (streamOf loop.conn)) (ran : lineTurns handle size n loop = some final) :
    final.session = loop.session ∧ final.dispatched = loop.dispatched := by
  induction n generalizing loop with
  | zero =>
      cases ran
      exact ⟨rfl, rfl⟩
  | succ n ih =>
      rw [lineTurns, Option.bind_eq_some_iff] at ran
      obtain ⟨next, turned, ran⟩ := ran
      obtain ⟨room', none', session, dispatched⟩ := no_line_turn handle size loop next room none turned
      obtain ⟨sameSession, sameDispatched⟩ := ih next room' none' ran
      exact ⟨sameSession.trans session, sameDispatched.trans dispatched⟩

structure OneLine (stream line behind : List UInt8) : Prop where
  stream : stream = line ++ 13 :: 10 :: behind
  nonempty : line ≠ []
  unbroken : Unbroken line
  fits : line.length < size
  behind : NoLine size behind

-- The handler does the same with the line, whatever of the stream is in the buffer
-- behind it.
def Settles (session session' : Session) (line : List UInt8) : Prop :=
  ∀ rest, (rest = [] ∨ ∃ more, rest = 10 :: more) → handle session line.length (line ++ 0 :: rest) = (session', false)

theorem set_terminator (line rest : List UInt8) (byte : UInt8) : (line ++ byte :: rest).set line.length 0 = line ++ 0 :: rest := by
  rw [List.set_append_right _ _ (Nat.le_refl _), Nat.sub_self, List.set_cons_zero]

theorem not_full_before (conn : Connection) (line behind : List UInt8) (one : OneLine size (streamOf conn) line behind)
    (unbroken : Unbroken conn.recvBuffer) : ¬ size ≤ conn.recvBuffer.length := by
  intro full
  have inside := Nat.lt_of_lt_of_le one.fits full
  have last : (streamOf conn)[line.length]? = some 13 := by
    rw [one.stream, List.getElem?_append_right (Nat.le_refl _), Nat.sub_self, List.getElem?_cons_zero]
  rw [streamOf, List.getElem?_append_left inside] at last
  have goesOn := unbroken 13 (List.mem_of_getElem? last)
  cases goesOn

theorem one_line_handed (loop : LineLoop Session) (conn : Connection) (nread : Nat) (line behind line' rest : List UInt8)
    (byte : UInt8) (session' : Session) (room : conn.recvBuffer.length ≤ size) (one : OneLine size (streamOf conn) line behind)
    (settles : Settles handle loop.session session' line) (head : Head nread conn.recvBuffer line' byte rest) :
    (handOver handle nread conn loop).conn.recvBuffer.length ≤ size ∧ (handOver handle nread conn loop).session = session' ∧
      (handOver handle nread conn loop).dispatched = loop.dispatched ++ [line] ∧
        NoLine size (streamOf (handOver handle nread conn loop).conn) := by
  obtain ⟨buffer, socket⟩ := conn
  have isBuffer : buffer = line' ++ byte :: rest := head.buffer
  have stream : line' ++ byte :: (rest ++ bytesOf socket) = line ++ 13 :: 10 :: behind := by
    rw [← one.stream, streamOf, isBuffer, List.append_assoc, List.cons_append]
  obtain ⟨rfl, rfl, sameRest⟩ := first_line_unique _ _ _ _ _ _ head.unbroken one.unbroken head.ends rfl stream
  have settled : handle loop.session nread (buffer.set nread 0) = (session', false) := by
    rw [head.nread, isBuffer, set_terminator]
    refine settles rest ?_
    cases rest with
    | nil => exact .inl rfl
    | cons first more =>
        obtain ⟨rfl, _⟩ := List.cons.inj sameRest
        exact .inr ⟨more, rfl⟩
  have isLine : buffer.take nread = line' := by rw [isBuffer, head.nread, List.take_left]
  obtain ⟨blank, isBlank, consumes⟩ := consumed_line nread buffer line' rest 13 head
  have left : 10 :: behind = blank ++ streamOf ⟨buffer.drop (consumed nread buffer), socket⟩ := by
    rw [← sameRest, streamOf, ← List.append_assoc, ← consumes]
  have noLine := no_line_behind size blank _ isBlank (left ▸ no_line_before size 10 behind rfl one.behind)
  rw [handOver, settled, isLine]
  exact ⟨Nat.le_trans (List.drop_sublist _ _).length_le room, rfl, rfl, noLine⟩

theorem one_line_turn (loop next : LineLoop Session) (line behind : List UInt8) (session' : Session) (goesOn : loop.ended = false)
    (room : loop.conn.recvBuffer.length ≤ size) (one : OneLine size (streamOf loop.conn) line behind)
    (settles : Settles handle loop.session session' line) (ran : lineTurn handle size loop = some next) :
    next.conn.recvBuffer.length ≤ size ∧
      ((next.ended = false ∧ next.session = loop.session ∧ next.dispatched = loop.dispatched ∧
          OneLine size (streamOf next.conn) line behind ∧ leftOver next.conn < leftOver loop.conn) ∨
        next.session = session' ∧ next.dispatched = loop.dispatched ++ [line] ∧ NoLine size (streamOf next.conn)) := by
  rw [line_turn_received size handle loop goesOn, Option.map_eq_some_iff] at ran
  obtain ⟨result, received, rfl⟩ := ran
  have spec := recv_line_spec size loop.conn room result received
  cases result with
  | failed code =>
      rcases spec with ⟨rfl, blank, rest, stream, isBlank, many⟩ | ⟨rfl, blank, tail, stream, isBlank, few, unbroken⟩
      · rw [no_blank_before blank rest line _ isBlank one.nonempty one.unbroken (one.stream.symm.trans stream)] at many
        exact absurd many (by decide)
      · have none := no_blank_before blank tail line _ isBlank one.nonempty one.unbroken (one.stream.symm.trans stream)
        rw [none, List.nil_append, one.stream] at stream
        have goesOn' := unbroken 13 (stream ▸ List.mem_append_right line List.mem_cons_self)
        cases goesOn'
  | received nread conn' =>
      obtain ⟨blank, passes, found⟩ := spec
      have none := no_blank_before blank (streamOf conn') line _ passes.isBlank one.nonempty one.unbroken
        (one.stream.symm.trans passes.stream)
      have same := passes.stream
      rw [none, List.nil_append] at same
      rcases found with ⟨positive, line', byte, rest, head⟩ | ⟨rfl, progress⟩
      · have handed := one_line_handed handle size loop conn' nread line behind line' rest byte session' passes.room (same ▸ one)
          settles head
        dsimp only
        rw [if_pos positive]
        exact ⟨handed.1, .inr handed.2⟩
      · refine ⟨passes.room, .inl ⟨goesOn, rfl, rfl, same ▸ one, ?_⟩⟩
        rw [none] at progress
        show leftOver conn' < leftOver loop.conn
        rcases progress with less | ⟨_, full, unbroken⟩
        · rw [leftOver, leftOver, same]
          exact Nat.add_lt_add_right less _
        · exact absurd full (not_full_before size loop.conn line behind one unbroken)

theorem one_line_turns (n : Nat) (loop final : LineLoop Session) (line behind : List UInt8) (session' : Session)
    (goesOn : loop.ended = false) (room : loop.conn.recvBuffer.length ≤ size)
    (one : OneLine size (streamOf loop.conn) line behind) (settles : Settles handle loop.session session' line)
    (enough : leftOver loop.conn < n) (ran : lineTurns handle size n loop = some final) :
    final.session = session' ∧ final.dispatched = loop.dispatched ++ [line] := by
  induction n generalizing loop with
  | zero => exact absurd enough (Nat.not_lt_zero _)
  | succ n ih =>
      rw [lineTurns, Option.bind_eq_some_iff] at ran
      obtain ⟨next, turned, ran⟩ := ran
      obtain ⟨room', waits | settled⟩ := one_line_turn handle size loop next line behind session' goesOn room one settles turned
      · obtain ⟨goesOn', session, dispatched, one', nearer⟩ := waits
        have rest := ih next goesOn' room' one' (session ▸ settles) (Nat.lt_of_lt_of_le nearer (Nat.le_of_lt_succ enough)) ran
        rw [dispatched] at rest
        exact rest
      · obtain ⟨session, dispatched, none⟩ := settled
        obtain ⟨sameSession, sameDispatched⟩ := no_line_turns handle size n next final room' none ran
        exact ⟨sameSession.trans session, sameDispatched.trans dispatched⟩

theorem line_turns_append (m n : Nat) (loop : LineLoop Session) :
    lineTurns handle size (m + n) loop = (lineTurns handle size m loop).bind (lineTurns handle size n) := by
  induction m generalizing loop with
  | zero => rw [Nat.zero_add, lineTurns, Option.bind_some]
  | succ m ih =>
      rw [Nat.add_right_comm, lineTurns, lineTurns, Option.bind_assoc]
      exact congrArg _ (funext ih)

theorem turn_dispatched (loop next : LineLoop Session) (ran : lineTurn handle size loop = some next) :
    loop.dispatched <+: next.dispatched := by
  by_cases ended : loop.ended = true
  · rw [lineTurn, if_pos ended] at ran
    cases ran
    exact List.prefix_rfl
  rw [line_turn_received size handle loop (eq_false_of_ne_true ended), Option.map_eq_some_iff] at ran
  obtain ⟨result, received, rfl⟩ := ran
  cases result with
  | failed code => exact List.prefix_rfl
  | received nread conn =>
      dsimp only
      by_cases positive : 0 < nread
      · rw [if_pos positive]
        exact List.prefix_append _ _
      · simp only [if_neg positive, List.prefix_rfl]

theorem turn_idle (loop next : LineLoop Session) (ran : lineTurn handle size loop = some next)
    (same : next.dispatched = loop.dispatched) : next.session = loop.session := by
  by_cases ended : loop.ended = true
  · rw [lineTurn, if_pos ended] at ran
    cases ran
    rfl
  rw [line_turn_received size handle loop (eq_false_of_ne_true ended), Option.map_eq_some_iff] at ran
  obtain ⟨result, received, rfl⟩ := ran
  cases result with
  | failed code => rfl
  | received nread conn =>
      dsimp only at same ⊢
      by_cases positive : 0 < nread
      · rw [if_pos positive] at same
        have longer := congrArg List.length same
        rw [handOver, List.length_append, List.length_singleton] at longer
        exact absurd longer (Nat.succ_ne_self _)
      · rw [if_neg positive]

theorem turns_dispatched (n : Nat) (loop final : LineLoop Session) (ran : lineTurns handle size n loop = some final) :
    loop.dispatched <+: final.dispatched := by
  induction n generalizing loop with
  | zero =>
      cases ran
      exact List.prefix_rfl
  | succ n ih =>
      rw [lineTurns, Option.bind_eq_some_iff] at ran
      obtain ⟨next, turned, ran⟩ := ran
      exact (turn_dispatched handle size loop next turned).trans (ih next ran)

theorem turns_idle (n : Nat) (loop final : LineLoop Session) (ran : lineTurns handle size n loop = some final)
    (same : final.dispatched = loop.dispatched) : final.session = loop.session := by
  induction n generalizing loop with
  | zero =>
      cases ran
      rfl
  | succ n ih =>
      rw [lineTurns, Option.bind_eq_some_iff] at ran
      obtain ⟨next, turned, ran⟩ := ran
      have before := turn_dispatched handle size loop next turned
      have behind := turns_dispatched handle size n next final ran
      rw [same] at behind
      have kept : next.dispatched = loop.dispatched := behind.eq_of_length (Nat.le_antisymm behind.length_le before.length_le)
      rw [ih next ran (same.trans kept.symm)]
      exact turn_idle handle size loop next turned kept

theorem turns_keep (holds : Session → Prop) (kept : ∀ session nread buffer, holds session → holds (handle session nread buffer).1) (n : Nat)
    (loop final : LineLoop Session) (ran : lineTurns handle size n loop = some final) (before : holds loop.session) :
    holds final.session := by
  induction n generalizing loop with
  | zero =>
      cases ran
      exact before
  | succ n ih =>
      rw [lineTurns, Option.bind_eq_some_iff] at ran
      obtain ⟨next, turned, ran⟩ := ran
      apply ih next ran
      by_cases ended : loop.ended = true
      · rw [lineTurn, if_pos ended] at turned
        cases turned
        exact before
      rw [line_turn_received size handle loop (eq_false_of_ne_true ended), Option.map_eq_some_iff] at turned
      obtain ⟨result, received, rfl⟩ := turned
      cases result with
      | failed code => exact before
      | received nread conn =>
          dsimp only
          by_cases positive : 0 < nread
          · rw [if_pos positive]
            exact kept loop.session nread _ before
          · rw [if_neg positive]
            exact before

theorem recv_byte (buffer rest : List UInt8) (byte : UInt8) (unbroken : Unbroken buffer) (space : buffer.length < size) :
    recvLine size ⟨buffer, byteByByte (byte :: rest)⟩ = skipEmpty size ⟨buffer ++ [byte], byteByByte rest⟩ := by
  have none : ¬ buffer.any isTerminator = true := by
    intro some
    obtain ⟨first, member, ends⟩ := List.any_eq_true.mp some
    rw [unbroken first member] at ends
    cases ends
  have given : Receivable (size - buffer.length) [byte] := ⟨Nat.one_pos, Nat.sub_pos_of_lt space⟩
  rw [recvLine, if_neg (not_or.mpr ⟨none, Nat.not_le_of_lt space⟩)]
  exact if_pos given

theorem skip_nothing (first : UInt8) (more : List UInt8) (socket : List Receipt) (goesOn : isTerminator first = false) :
    skipEmpty size ⟨first :: more, socket⟩ = some (searchLine ⟨first :: more, socket⟩) := by
  have notEnd : ¬ isTerminator first = true := goesOn ▸ Bool.false_ne_true
  rw [skipEmpty]
  simp only [List.takeWhile_cons_of_neg notEnd, List.dropWhile_cons_of_neg notEnd, List.length_nil]
  rfl

theorem skip_one (byte next : UInt8) (more : List UInt8) (positive : 0 < size) (ends : isTerminator byte = true) :
    skipEmpty size ⟨[byte], byteByByte (next :: more)⟩ = some (.received 0 ⟨[next], byteByByte more⟩) := by
  have given : Receivable size [next] := ⟨Nat.one_pos, positive⟩
  have search : ([next].findIdx? isTerminator).getD 0 = 0 := by
    rw [List.findIdx?_cons]
    split
    · rfl
    · rfl
  rw [skipEmpty]
  simp only [List.takeWhile_cons_of_pos ends, List.dropWhile_cons_of_pos ends, List.takeWhile_nil, List.dropWhile_nil,
    List.length_singleton]
  show (if Receivable size [next] then some (searchLine ⟨[next], byteByByte more⟩) else none) = _
  rw [if_pos given, searchLine, search]

theorem search_unbroken (buffer rest : List UInt8) (byte : UInt8) (socket : List Receipt) (unbroken : Unbroken buffer)
    (ends : isTerminator byte = true) :
    searchLine ⟨buffer ++ byte :: rest, socket⟩ = .received buffer.length ⟨buffer ++ byte :: rest, socket⟩ := by
  have none : buffer.findIdx? isTerminator = none := List.findIdx?_eq_none_iff.mpr unbroken
  rw [searchLine, List.findIdx?_append, none, List.findIdx?_cons, if_pos ends, Option.none_or, Option.map_some, Nat.zero_add,
    Option.getD_some]

theorem consumed_last (buffer : List UInt8) (byte : UInt8) (ends : isTerminator byte = true) :
    consumed buffer.length (buffer ++ [byte]) = buffer.length + 1 := by
  have last : (buffer ++ [byte])[buffer.length]? = some byte := by
    rw [List.getElem?_append_right (Nat.le_refl _), Nat.sub_self, List.getElem?_cons_zero]
  have behind : (buffer ++ [byte])[buffer.length + 1]? = none := List.getElem?_eq_none (Nat.le_of_eq List.length_append)
  have either : byte = 10 ∨ byte = 13 := by
    rw [isTerminator, Bool.or_eq_true, beq_iff_eq, beq_iff_eq] at ends
    exact ends
  rw [consumed, last, behind]
  rcases either with rfl | rfl
  · rw [if_pos rfl]
  · rw [if_neg (by decide), if_pos rfl, if_neg (by decide)]

theorem hand_over_last (loop : LineLoop Session) (buffer : List UInt8) (byte : UInt8) (socket : List Receipt)
    (ends : isTerminator byte = true) :
    handOver handle buffer.length ⟨buffer ++ [byte], socket⟩ loop =
      { loop with
        session := (handle loop.session buffer.length (buffer ++ [0])).1
        ended := (handle loop.session buffer.length (buffer ++ [0])).2
        conn := ⟨[], socket⟩
        dispatched := loop.dispatched ++ [buffer] } := by
  have all : (buffer ++ [byte]).drop (buffer.length + 1) = [] := List.drop_eq_nil_of_le (Nat.le_of_eq List.length_append)
  rw [handOver, set_terminator, consumed_last buffer byte ends, all, List.take_left]

theorem byte_line (loop : LineLoop Session) (goesOn : loop.ended = false) (buffer tail rest : List UInt8) (byte : UInt8)
    (conn : loop.conn = ⟨buffer, byteByByte (tail ++ byte :: rest)⟩) (nonempty : buffer ++ tail ≠ [])
    (unbroken : Unbroken (buffer ++ tail)) (fits : (buffer ++ tail).length < size) (ends : isTerminator byte = true) :
    ∃ n, lineTurns handle size n loop =
      some { loop with
        session := (handle loop.session (buffer ++ tail).length (buffer ++ tail ++ [0])).1
        ended := (handle loop.session (buffer ++ tail).length (buffer ++ tail ++ [0])).2
        conn := ⟨[], byteByByte rest⟩
        dispatched := loop.dispatched ++ [buffer ++ tail] } := by
  induction tail generalizing loop buffer with
  | nil =>
      rw [List.append_nil] at nonempty unbroken fits ⊢
      have received : recvLine size loop.conn = some (.received buffer.length ⟨buffer ++ [byte], byteByByte rest⟩) := by
        obtain ⟨first, more, isBuffer⟩ := List.exists_cons_of_ne_nil nonempty
        have first' : isTerminator first = false := unbroken first (isBuffer ▸ List.mem_cons_self)
        have skipped := skip_nothing size first (more ++ [byte]) (byteByByte rest) first'
        rw [← List.cons_append, ← isBuffer, search_unbroken buffer [] byte _ unbroken ends] at skipped
        rw [conn, List.nil_append, recv_byte size buffer rest byte unbroken fits, skipped]
      refine ⟨1, ?_⟩
      rw [lineTurns, line_turn_received size handle loop goesOn, received, Option.map_some, Option.bind_some]
      dsimp only
      rw [if_pos (List.length_pos_of_ne_nil nonempty), hand_over_last handle loop buffer byte _ ends, lineTurns]
  | cons next tail ih =>
      have split : buffer ++ next :: tail = buffer ++ [next] ++ tail := List.append_cons buffer next tail
      rw [split] at nonempty unbroken fits ⊢
      have received : recvLine size loop.conn = some (.received 0 ⟨buffer ++ [next], byteByByte (tail ++ byte :: rest)⟩) := by
        have before : Unbroken (buffer ++ [next]) := fun byte member => unbroken byte (List.mem_append_left tail member)
        have none : (buffer ++ [next]).findIdx? isTerminator = none := List.findIdx?_eq_none_iff.mpr before
        have some : buffer ++ [next] ≠ [] := List.append_ne_nil_of_right_ne_nil buffer (List.cons_ne_nil next [])
        obtain ⟨first, more, isBuffer⟩ := List.exists_cons_of_ne_nil some
        have skipped := skip_nothing size first more (byteByByte (tail ++ byte :: rest)) (before first (isBuffer ▸ List.mem_cons_self))
        rw [← isBuffer, searchLine, none] at skipped
        have space : buffer.length < size := by
          rw [List.length_append, List.length_append] at fits
          omega
        rw [conn, List.cons_append, recv_byte size buffer _ next (fun byte member => before byte (List.mem_append_left _ member)) space]
        exact skipped
      have turned : lineTurn handle size loop =
          some { loop with conn := ⟨buffer ++ [next], byteByByte (tail ++ byte :: rest)⟩ } := by
        rw [line_turn_received size handle loop goesOn, received]
        rfl
      obtain ⟨n, ran⟩ := ih { loop with conn := ⟨buffer ++ [next], byteByByte (tail ++ byte :: rest)⟩ } goesOn (buffer ++ [next]) rfl
        nonempty unbroken fits
      exact ⟨n + 1, by rw [lineTurns, turned]; exact ran⟩

theorem byte_blank (loop : LineLoop Session) (goesOn : loop.ended = false) (buffer blank more target : List UInt8)
    (conn : loop.conn = ⟨buffer, byteByByte more⟩) (one : buffer.length ≤ 1) (isBlank : Blank blank) (nonempty : target ≠ [])
    (positive : 0 < size) (stream : buffer ++ more = blank ++ target) : ∃ n buffer' more',
      buffer' ++ more' = target ∧ buffer'.length ≤ 1 ∧
        lineTurns handle size n loop = some { loop with conn := ⟨buffer', byteByByte more'⟩ } := by
  induction blank generalizing loop buffer more with
  | nil =>
      refine ⟨0, buffer, more, stream, one, ?_⟩
      rw [← conn]
      rfl
  | cons byte blank ih =>
      have ends := isBlank byte List.mem_cons_self
      obtain ⟨next, behind, isNext⟩ : ∃ next behind, blank ++ target = next :: behind :=
        List.exists_cons_of_ne_nil (List.append_ne_nil_of_right_ne_nil blank nonempty)
      have received : recvLine size loop.conn = some (.received 0 ⟨[next], byteByByte behind⟩) := by
        rw [conn]
        cases buffer with
        | nil =>
            rw [List.nil_append, List.cons_append, isNext] at stream
            rw [stream, recv_byte size [] _ byte (fun _ member => absurd member List.not_mem_nil) positive]
            exact skip_one size byte next behind positive ends
        | cons first more' =>
            obtain rfl : more' = [] := List.eq_nil_of_length_eq_zero (Nat.le_zero.mp (Nat.le_of_succ_le_succ one))
            obtain rfl : first = byte := (List.cons.inj stream).1
            have rest : more = next :: behind := (List.cons.inj stream).2.trans isNext
            have some : [first].any isTerminator = true := List.any_eq_true.mpr ⟨first, List.mem_cons_self, ends⟩
            rw [recvLine, if_pos (Or.inl some), rest]
            exact skip_one size first next behind positive ends
      have turned : lineTurn handle size loop = some { loop with conn := ⟨[next], byteByByte behind⟩ } := by
        rw [line_turn_received size handle loop goesOn, received]
        rfl
      obtain ⟨n, buffer', more', isTarget, one', ran⟩ := ih { loop with conn := ⟨[next], byteByByte behind⟩ } goesOn [next] behind rfl
        (Nat.le_refl 1) (List.forall_mem_cons.mp isBlank).2 isNext.symm
      exact ⟨n + 1, buffer', more', isTarget, one', by rw [lineTurns, turned]; exact ran⟩

theorem byte_next_line (loop : LineLoop Session) (goesOn : loop.ended = false) (blank line rest : List UInt8) (byte : UInt8)
    (conn : loop.conn = ⟨[], byteByByte (blank ++ (line ++ byte :: rest))⟩) (isBlank : Blank blank) (nonempty : line ≠ [])
    (unbroken : Unbroken line) (fits : line.length < size) (ends : isTerminator byte = true) :
    ∃ n, lineTurns handle size n loop =
      some { loop with
        session := (handle loop.session line.length (line ++ [0])).1
        ended := (handle loop.session line.length (line ++ [0])).2
        conn := ⟨[], byteByByte rest⟩
        dispatched := loop.dispatched ++ [line] } := by
  obtain ⟨first, tail, rfl⟩ := List.exists_cons_of_ne_nil nonempty
  obtain ⟨m, buffer, more, stream, one, skipped⟩ := byte_blank handle size loop goesOn [] blank _ (first :: tail ++ byte :: rest) conn
    (Nat.zero_le 1) isBlank (List.cons_ne_nil _ _) (Nat.zero_lt_of_lt fits) rfl
  obtain ⟨behind, whole, isMore⟩ : ∃ behind, buffer ++ behind = first :: tail ∧ more = behind ++ byte :: rest := by
    rcases buffer with _ | ⟨b, _ | ⟨c, buffer⟩⟩
    · exact ⟨first :: tail, rfl, stream⟩
    · obtain ⟨rfl, isMore⟩ := List.cons.inj stream
      exact ⟨tail, rfl, isMore⟩
    · exact absurd one (by rw [List.length_cons, List.length_cons]; omega)
  obtain ⟨n, ran⟩ := byte_line handle size { loop with conn := ⟨buffer, byteByByte more⟩ } goesOn buffer behind rest byte
    (by rw [isMore]) (whole ▸ nonempty) (whole ▸ unbroken) (whole ▸ fits) ends
  rw [whole] at ran
  exact ⟨m + n, by rw [line_turns_append, skipped]; exact ran⟩

theorem byte_turns (positive : 0 < size) (n : Nat) (loop : LineLoop Session) (rest : List UInt8) (quiet : loop.socketErr ≠ -1)
    (conn : loop.conn = ⟨[], byteByByte rest⟩) : ∃ final, lineTurns handle size n loop = some final := by
  have bytewise : Bytewise size loop.conn := by
    rw [conn]
    exact ⟨Nat.zero_le _, fun _ member => absurd member List.not_mem_nil, rest, rfl⟩
  obtain ⟨final, ran, _⟩ := line_turns_bytewise handle size positive n loop ⟨quiet, bytewise⟩
  exact ⟨final, ran⟩

theorem overlong_no_line (line behind : List UInt8) (byte : UInt8) (nonempty : line ≠ []) (unbroken : Unbroken line)
    (ends : isTerminator byte = true) (long : size ≤ line.length) : NoLine size (line ++ byte :: behind) := by
  intro blank line' byte' rest same isBlank nonempty' unbroken' ends'
  obtain rfl := no_blank_before blank _ line _ isBlank nonempty unbroken same
  rw [← (first_line_unique _ _ _ _ _ _ unbroken unbroken' ends ends' same).1]
  exact long

end

end RingServer.Net
