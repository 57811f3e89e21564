import RingServer.Net.LineFraming

set_option autoImplicit false

namespace RingServer.Net

def byteByByte (stream : List UInt8) : List Receipt := stream.map fun byte => .bytes [byte]

theorem bytes_of_byte_by_byte (stream : List UInt8) : bytesOf (byteByByte stream) = stream := by
  induction stream with
  | nil => rfl
  | cons byte rest ih => exact congrArg (byte :: ·) ih

def OneEnd (buffer : List UInt8) : Prop := ∀ byte ∈ buffer.dropLast, isTerminator byte = false

theorem one_end_append (buffer : List UInt8) (byte : UInt8) (unbroken : Unbroken buffer) : OneEnd (buffer ++ [byte]) := by
  rw [OneEnd, List.dropLast_concat]
  exact unbroken

theorem one_end_suffix (buffer rest : List UInt8) (one : OneEnd buffer) (suffix : rest <:+ buffer) : OneEnd rest := by
  obtain ⟨before, rfl⟩ := suffix
  by_cases none : rest = []
  · rw [none]
    exact fun _ member => absurd member List.not_mem_nil
  · intro byte member
    refine one byte ?_
    rw [List.dropLast_append_of_ne_nil none]
    exact List.mem_append_right before member

theorem one_end_blank (buffer : List UInt8) (one : OneEnd buffer) : (buffer.takeWhile isTerminator).length ≤ 1 := by
  rcases buffer with _ | ⟨first, _ | ⟨second, rest⟩⟩
  · exact Nat.zero_le 1
  · exact (List.takeWhile_prefix _).length_le
  · have goesOn := one first List.mem_cons_self
    rw [List.takeWhile_cons_of_neg (Bool.not_eq_true _ ▸ goesOn)]
    exact Nat.zero_le 1

section

variable (size : Nat)

structure Bytewise (conn : Connection) : Prop where
  room : conn.recvBuffer.length ≤ size
  one : OneEnd conn.recvBuffer
  singly : ∃ rest, conn.socket = byteByByte rest

def BytewiseReceipt : LineReceipt → Prop
  | .failed code => code ≠ -1
  | .received _ conn => Bytewise size conn

theorem skip_empty_bytewise (positive : 0 < size) (conn : Connection) (bytewise : Bytewise size conn) :
    ∃ result, skipEmpty size conn = some result ∧ BytewiseReceipt size result := by
  have few := one_end_blank conn.recvBuffer bytewise.one
  have one := one_end_suffix _ _ bytewise.one (List.dropWhile_suffix isTerminator (l := conn.recvBuffer))
  obtain ⟨rest, singly⟩ := bytewise.singly
  have room := Nat.le_trans (List.dropWhile_suffix isTerminator (l := conn.recvBuffer)).length_le bytewise.room
  rw [skipEmpty, if_neg (by omega)]
  by_cases more : conn.recvBuffer.dropWhile isTerminator ≠ []
  · rw [if_pos more]
    exact ⟨_, rfl, room, one, rest, singly⟩
  rw [if_neg more, singly]
  cases rest with
  | nil => exact ⟨.failed (-2), rfl, (by decide : (-2 : Int) ≠ -1)⟩
  | cons byte rest =>
      have given : Receivable size [byte] := ⟨Nat.one_pos, positive⟩
      exact ⟨_, if_pos given, positive, one_end_append [] byte (fun _ member => absurd member List.not_mem_nil), rest, rfl⟩

theorem recv_line_bytewise (positive : 0 < size) (conn : Connection) (bytewise : Bytewise size conn) :
    ∃ result, recvLine size conn = some result ∧ BytewiseReceipt size result := by
  rw [recvLine]
  by_cases keeps : conn.recvBuffer.any isTerminator = true ∨ size ≤ conn.recvBuffer.length
  · rw [if_pos keeps]
    exact skip_empty_bytewise size positive conn bytewise
  rw [if_neg keeps]
  obtain ⟨noneEnds, space⟩ := not_or.mp keeps
  have unbroken : Unbroken conn.recvBuffer := by
    intro byte member
    exact eq_false_of_ne_true fun ends => noneEnds (List.any_eq_true.mpr ⟨byte, member, ends⟩)
  obtain ⟨rest, singly⟩ := bytewise.singly
  rw [singly]
  cases rest with
  | nil => exact ⟨.failed (-2), rfl, (by decide : (-2 : Int) ≠ -1)⟩
  | cons byte rest =>
      have given : Receivable (size - conn.recvBuffer.length) [byte] := ⟨Nat.one_pos, Nat.sub_pos_of_lt (Nat.lt_of_not_le space)⟩
      have room : (conn.recvBuffer ++ [byte]).length ≤ size := by
        rw [List.length_append, List.length_singleton]
        omega
      have received := skip_empty_bytewise size positive ⟨conn.recvBuffer ++ [byte], byteByByte rest⟩
        ⟨room, one_end_append _ byte unbroken, rest, rfl⟩
      show ∃ result, (if Receivable _ [byte] then _ else _) = some result ∧ _
      rw [if_pos given]
      exact received

end

section

variable {Session : Type} (handle : Session → Nat → List UInt8 → Session × Bool) (size : Nat)

def BytewiseLoop (loop : LineLoop Session) : Prop := loop.socketErr ≠ -1 ∧ Bytewise size loop.conn

theorem line_turn_bytewise (positive : 0 < size) (loop : LineLoop Session) (bytewise : BytewiseLoop size loop) :
    ∃ next, lineTurn handle size loop = some next ∧ BytewiseLoop size next := by
  obtain ⟨quiet, bytewise⟩ := bytewise
  by_cases ended : loop.ended = true
  · exact ⟨loop, if_pos ended, quiet, bytewise⟩
  obtain ⟨result, received, bytewise'⟩ := recv_line_bytewise size positive loop.conn bytewise
  rw [line_turn_received size handle loop (eq_false_of_ne_true ended), received, Option.map_some]
  cases result with
  | failed code => exact ⟨_, rfl, bytewise', bytewise⟩
  | received nread conn' =>
      dsimp only
      by_cases found : 0 < nread
      · rw [if_pos found]
        refine ⟨_, rfl, quiet, ?_, ?_, bytewise'.singly⟩
        · exact Nat.le_trans (List.drop_sublist _ _).length_le bytewise'.room
        · exact one_end_suffix _ _ bytewise'.one (List.drop_suffix _ _)
      · rw [if_neg found]
        exact ⟨_, rfl, quiet, bytewise'⟩

theorem line_turns_bytewise (positive : 0 < size) (n : Nat) (loop : LineLoop Session) (bytewise : BytewiseLoop size loop) :
    ∃ final, lineTurns handle size n loop = some final ∧ BytewiseLoop size final := by
  induction n generalizing loop with
  | zero => exact ⟨loop, rfl, bytewise⟩
  | succ n ih =>
      obtain ⟨next, turned, bytewise'⟩ := line_turn_bytewise handle size positive loop bytewise
      rw [lineTurns, turned]
      exact ih next bytewise'

end

section

variable {Session : Type} (handle : Session → List UInt8 → Session × Bool) (size : Nat)

-- All arrivals of a stream are framed as it is to be split exactly where it has not got
-- to be rejected: what has to be is not, or not in every arrival.
theorem lines_framed (session : Session) (stream : List UInt8) (positive : 0 < size) :
    FramedAs handle size session stream (expectedOf handle size session 0 stream) ↔
      (expectedOf handle size session 0 stream).2 = false := by
  constructor
  · intro framed
    have start : BytewiseLoop size (lineStart session (byteByByte stream)) :=
      ⟨(by decide : (0 : Int) ≠ -1), Nat.zero_le _, fun _ member => absurd member List.not_mem_nil, stream, rfl⟩
    obtain ⟨final, ran, quiet, _⟩ := line_turns_bytewise (byLine handle) size positive
      ((byteByByte stream).length + stream.length + 1) _ start
    have same := framed (byteByByte stream) _ final (bytes_of_byte_by_byte stream) (Nat.lt_succ_self _) ran
    exact eq_false_of_ne_true fun rejected => quiet (same.2.2.mpr rejected)
  · rintro fine socket rounds final rfl enough ran
    have spec := line_turns_spec handle size rounds (lineStart session socket) final positive rfl (Nat.zero_le _)
      (by decide : (0 : Int) ≠ -1) fine enough ran
    exact ⟨spec.1, spec.2.1, iff_of_false spec.2.2 (by rw [fine]; decide)⟩

def goesOn (session : Unit) (_ : List UInt8) : Unit × Bool := (session, false)

def helloLine : List UInt8 := [72, 69, 76, 76, 79, 13, 10]

theorem hello_framed : FramedAs goesOn 1280 () helloLine (expectedOf goesOn 1280 () 0 helloLine) :=
  (lines_framed goesOn 1280 () helloLine (by decide)).mpr (by decide)

def emptyLines : List UInt8 := List.replicate 10 10 ++ helloLine

-- Ten empty lines are rejected where they come at once, and not in two receipts.
theorem empty_lines_framed_by_arrival : ¬ ∃ expected, FramedAs goesOn 1280 () emptyLines expected := by
  rintro ⟨expected, framed⟩
  have once := framed [.bytes emptyLines] 40 ⟨(), true, -1, ⟨[], [.bytes emptyLines]⟩, []⟩ rfl (by decide) rfl
  have twice := framed [.bytes (List.replicate 8 10), .bytes (10 :: 10 :: helloLine)] 40
    ⟨(), true, -2, ⟨[], []⟩, [[72, 69, 76, 76, 79]]⟩ rfl (by decide) rfl
  exact absurd (once.2.1.trans twice.2.1.symm) (by decide)

end

end RingServer.Net
