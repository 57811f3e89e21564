import RingServer.Net.SendData
import RingServer.Library.Bytes

set_option autoImplicit false

namespace RingServer.Net.SendData

open Library

structure ArraySegment where
  array : List UInt8
  count : Int32
  inside : 0 ≤ count.toInt ∧ count.toInt ≤ array.length

inductive SocketError where
  | connectionReset
  | connectionAborted
  | other

inductive SendResult where
  | sent (count : Int32)
  | socketException (errorCode : SocketError)
  | objectDisposed

-- What each call of Send comes to, by its place among the calls and the segments that it is
-- handed: never more bytes than these have.
structure Socket where
  send : Nat → List (List UInt8) → SendResult
  offered : ∀ call segments count, send call segments = .sent count → count.toInt ≤ segments.flatten.length

def totalBufLen : List ArraySegment → Int32
  | [] => 0
  | buffer :: rest => buffer.count + totalBufLen rest

def sendSegments (totalSent : Int32) : Int32 → List ArraySegment → List (List UInt8)
  | _, [] => []
  | offset, buffer :: rest =>
      let segEnd := offset + buffer.count
      let start := max 0 (totalSent - offset)
      let count := min (buffer.count - start) (segEnd - totalSent)
      if segEnd > totalSent ∧ count > 0 then
        (buffer.array.drop start.toInt.toNat).take count.toInt.toNat :: sendSegments totalSent segEnd rest
      else sendSegments totalSent segEnd rest

-- The loop, with the bytes that it puts on the socket; none is out of fuel.
def sendLoop (socket : Socket) (buffers : List ArraySegment) : Nat → Nat → Int32 → Option (Int × List UInt8)
  | 0, _, _ => none
  | fuel + 1, call, totalSent =>
      if totalSent < totalBufLen buffers then
        let segments := sendSegments totalSent 0 buffers
        if segments = [] then some (0, [])
        else match socket.send call segments with
          | .socketException .connectionReset => some (-2, [])
          | .socketException .connectionAborted => some (-2, [])
          | .socketException .other => some (-1, [])
          | .objectDisposed => some (-2, [])
          | .sent count =>
              if count ≤ 0 then some (-1, [])
              else (sendLoop socket buffers fuel (call + 1) (totalSent + count)).map fun result =>
                (result.1, segments.flatten.take count.toInt.toNat ++ result.2)
      else some (0, [])

-- SendBuffersToClient on a socket that is there. Making the socket block is no send and is
-- taken to succeed; the counts of the client are those of sendBuffersToClient.
def sendBuffers (socket : Socket) (fuel : Nat) (buffers : List ArraySegment) : Option (Int × List UInt8) :=
  if buffers = [] then some (0, []) else sendLoop socket buffers fuel 0 0

def ArraySegment.plain (buffer : ArraySegment) : List UInt8 × Nat := (buffer.array, buffer.count.toInt.toNat)

def plainBuffers (buffers : List ArraySegment) : List (List UInt8 × Nat) := buffers.map ArraySegment.plain

def concatenation (buffers : List ArraySegment) : List UInt8 := bufferBytes (plainBuffers buffers)

def totalLength (buffers : List ArraySegment) : Nat := bufferLength (plainBuffers buffers)

theorem plain_filled (buffers : List ArraySegment) : Filled (plainBuffers buffers) := by
  intro plain member
  obtain ⟨buffer, -, rfl⟩ := List.mem_map.mp member
  have inside := buffer.inside
  show buffer.count.toInt.toNat ≤ buffer.array.length
  omega

theorem total_length_cons (buffer : ArraySegment) (rest : List ArraySegment) :
    totalLength (buffer :: rest) = buffer.count.toInt.toNat + totalLength rest := rfl

theorem total_exact (buffers : List ArraySegment) (small : totalLength buffers < 2 ^ 31) :
    (totalBufLen buffers).toInt = totalLength buffers := by
  induction buffers with
  | nil => rfl
  | cons buffer rest ih =>
      rw [total_length_cons] at small ⊢
      have behind := ih (by omega)
      have inside := buffer.inside
      rw [totalBufLen, int32_add_small _ _ (by omega) (by omega), behind]
      omega

theorem max_int (a b : Int32) : (max a b).toInt = max a.toInt b.toInt := by
  show (if a ≤ b then b else a).toInt = _
  split
  · next less => exact (max_eq_right (Int32.le_iff_toInt_le.mp less)).symm
  · next more => exact (max_eq_left (not_le.mp (mt Int32.le_iff_toInt_le.mpr more)).le).symm

theorem min_int (a b : Int32) : (min a b).toInt = min a.toInt b.toInt := by
  show (if a ≤ b then a else b).toInt = _
  split
  · next less => exact (min_eq_left (Int32.le_iff_toInt_le.mp less)).symm
  · next more => exact (min_eq_right (not_le.mp (mt Int32.le_iff_toInt_le.mpr more)).le).symm

theorem segment_bounds (o c t : Nat) :
    (max 0 ((t : Int) - o)).toNat = t - o ∧
      (min ((c : Int) - max 0 ((t : Int) - o)) (o + c - t)).toNat = min (c - (t - o)) (o + c - t) ∧
      ((t : Int) < o + c ∧ 0 < min ((c : Int) - max 0 ((t : Int) - o)) (o + c - t) ↔
        o + c > t ∧ min (c - (t - o)) (o + c - t) > 0) := by
  omega

theorem segments_exact (totalSent offset : Int32) (buffers : List ArraySegment) (t o : Nat) (sent : totalSent.toInt = t)
    (front : offset.toInt = o) (small : o + totalLength buffers < 2 ^ 31) :
    sendSegments totalSent offset buffers = Net.sendSegments t o (plainBuffers buffers) := by
  induction buffers generalizing offset o with
  | nil => rfl
  | cons buffer rest ih =>
      rw [total_length_cons] at small
      have below := totalSent.toInt_lt
      obtain ⟨c, isCount⟩ := Int.eq_ofNat_of_zero_le buffer.inside.1
      have plain : buffer.count.toInt.toNat = c := by rw [isCount, Int.toNat_natCast]
      rw [plain] at small
      have segEnd : (offset + buffer.count).toInt = o + c := by
        rw [int32_add_small _ _ (by omega) (by omega), front, isCount]
      have start : (max 0 (totalSent - offset)).toInt = max 0 ((t : Int) - o) := by
        rw [max_int, int32_sub_small _ _ (by omega) (by omega), sent, front]
        rfl
      have left : (buffer.count - max 0 (totalSent - offset)).toInt = (c : Int) - max 0 ((t : Int) - o) := by
        rw [int32_sub_small _ _ (by omega) (by omega), start, isCount]
      have right : (offset + buffer.count - totalSent).toInt = o + c - t := by
        rw [int32_sub_small _ _ (by omega) (by omega), segEnd, sent]
      obtain ⟨skipped, count, remains⟩ := segment_bounds o c t
      have chosen : (offset + buffer.count > totalSent ∧
          min (buffer.count - max 0 (totalSent - offset)) (offset + buffer.count - totalSent) > 0) ↔
            o + c > t ∧ min (c - (t - o)) (o + c - t) > 0 := by
        rw [gt_iff_lt, Int32.lt_iff_toInt_lt, gt_iff_lt, Int32.lt_iff_toInt_lt, min_int, segEnd, left, right, sent]
        exact remains
      have behind := ih (offset + buffer.count) (o + c) segEnd (by omega)
      rw [plainBuffers] at behind ⊢
      rw [sendSegments, List.map_cons, ArraySegment.plain, Net.sendSegments, plain, min_int, left, right, start, skipped, count, behind]
      exact if_congr chosen rfl rfl

def SendResult.plain : SendResult → Sent
  | .sent count => .bytes count.toInt.toNat
  | .socketException .connectionReset => .connectionLost
  | .socketException .connectionAborted => .connectionLost
  | .socketException .other => .socketError
  | .objectDisposed => .disposed

theorem send_turn (socket : Socket) (buffers : List ArraySegment) (fuel call : Nat) (totalSent : Int32) (segments : List (List UInt8))
    (goesOn : totalSent < totalBufLen buffers) (same : sendSegments totalSent 0 buffers = segments) (left : segments ≠ []) :
    sendLoop socket buffers (fuel + 1) call totalSent =
      match socket.send call segments with
      | .socketException .connectionReset => some (-2, [])
      | .socketException .connectionAborted => some (-2, [])
      | .socketException .other => some (-1, [])
      | .objectDisposed => some (-2, [])
      | .sent count =>
          if count ≤ 0 then some (-1, [])
          else (sendLoop socket buffers fuel (call + 1) (totalSent + count)).map fun result =>
            (result.1, segments.flatten.take count.toInt.toNat ++ result.2) := by
  rw [sendLoop, if_pos goesOn, same]
  exact if_neg left

def SendResult.failCode : SendResult → Option Int
  | .socketException .connectionReset => some (-2)
  | .socketException .connectionAborted => some (-2)
  | .socketException .other => some (-1)
  | .objectDisposed => some (-2)
  | .sent count => if count ≤ 0 then some (-1) else none

-- The calls of Send from one on, behind taken bytes: each is handed all that is left. The
-- counts are those that the calls returned, and the code is 0 where no call failed.
inductive Sends (socket : Socket) (buffers : List ArraySegment) : Nat → Nat → List Nat → Int → Prop where
  | all (call taken : Nat) (none : totalLength buffers ≤ taken) : Sends socket buffers call taken [] 0
  | failed (call taken : Nat) (segments : List (List UInt8)) (code : Int) (left : segments ≠ [])
      (handed : segments.flatten = (concatenation buffers).drop taken) (fails : (socket.send call segments).failCode = some code) :
      Sends socket buffers call taken [] code
  | took (call taken : Nat) (segments : List (List UInt8)) (count : Int32) (rest : List Nat) (code : Int) (left : segments ≠ [])
      (handed : segments.flatten = (concatenation buffers).drop taken) (answer : socket.send call segments = .sent count)
      (positive : 0 < count.toInt) (behind : Sends socket buffers (call + 1) (taken + count.toInt.toNat) rest code) :
      Sends socket buffers call taken (count.toInt.toNat :: rest) code

def Gathers (socket : Socket) (buffers : List ArraySegment) (left call t : Nat) (totalSent : Int32) : Prop :=
  ∃ result sends counts, gatherSend (plainBuffers buffers) t sends = some result ∧ Sends socket buffers call t counts result.1 ∧
    result.2.length = counts.sum ∧ ∀ fuel, left < fuel → sendLoop socket buffers fuel call totalSent = some result

theorem gathers_at_once (socket : Socket) (buffers : List ArraySegment) (left call t : Nat) (totalSent : Int32) (code : Int)
    (sends : List Sent) (gathers : gatherSend (plainBuffers buffers) t sends = some (code, [])) (ended : Sends socket buffers call t [] code)
    (turn : ∀ fuel, sendLoop socket buffers (fuel + 1) call totalSent = some (code, [])) :
    Gathers socket buffers left call t totalSent := by
  refine ⟨(code, []), sends, [], gathers, ended, rfl, fun fuel enough => ?_⟩
  obtain ⟨less, rfl⟩ := Nat.exists_eq_succ_of_ne_zero (Nat.ne_zero_of_lt enough)
  exact turn less

theorem segments_handed (buffers : List ArraySegment) (t : Nat) :
    (Net.sendSegments t 0 (plainBuffers buffers)).flatten = (concatenation buffers).drop t := by
  have remain := segments_remain t 0 (plainBuffers buffers) (plain_filled buffers)
  rw [Nat.sub_zero] at remain
  exact remain

theorem concatenation_length (buffers : List ArraySegment) : (concatenation buffers).length = totalLength buffers :=
  buffer_bytes_length _ (plain_filled buffers)

theorem none_handed (buffers : List ArraySegment) (t : Nat)
    (done : totalLength buffers ≤ t ∨ Net.sendSegments t 0 (plainBuffers buffers) = []) : totalLength buffers ≤ t := by
  refine done.elim id fun none => ?_
  have handed := segments_handed buffers t
  rw [none, List.flatten_nil] at handed
  rw [← concatenation_length]
  exact List.drop_eq_nil_iff.mp handed.symm

theorem loop_gathers (socket : Socket) (buffers : List ArraySegment) (small : totalLength buffers < 2 ^ 31) (left call t : Nat)
    (totalSent : Int32) (sent : totalSent.toInt = t) (within : t + left = totalLength buffers) :
    Gathers socket buffers left call t totalSent := by
  induction left using Nat.strong_induction_on generalizing call t totalSent with
  | h left ih =>
      have total := total_exact buffers small
      have same := segments_exact totalSent 0 buffers t 0 sent rfl (by omega)
      have goesOn : totalSent < totalBufLen buffers ↔ ¬ bufferLength (plainBuffers buffers) ≤ t := by
        rw [Int32.lt_iff_toInt_lt, sent, total, totalLength]
        omega
      by_cases done : bufferLength (plainBuffers buffers) ≤ t ∨ Net.sendSegments t 0 (plainBuffers buffers) = []
      · refine gathers_at_once socket buffers left call t totalSent 0 [] (by rw [gatherSend.eq_def, if_pos done])
          (.all call t (none_handed buffers t done)) fun fuel => ?_
        rw [sendLoop, same]
        split
        · next open' => exact if_pos (done.resolve_left (goesOn.mp open'))
        · rfl
      have some : Net.sendSegments t 0 (plainBuffers buffers) ≠ [] := fun none => done (.inr none)
      have handed := segments_handed buffers t
      have turn (fuel : Nat) := send_turn socket buffers fuel call totalSent _ (goesOn.mpr fun all => done (.inl all)) same some
      have ends (code : Int) (plain : Sent) (gathers : gatherSend (plainBuffers buffers) t [plain] = .some (code, []))
          (fails : (socket.send call (Net.sendSegments t 0 (plainBuffers buffers))).failCode = .some code) :=
        gathers_at_once socket buffers left call t totalSent code [plain] gathers (.failed call t _ code some handed fails)
      cases answer : socket.send call (Net.sendSegments t 0 (plainBuffers buffers)) with
      | socketException errorCode =>
          cases errorCode with
          | connectionReset =>
              exact ends (-2) .connectionLost (by rw [gatherSend, if_neg done]) (by rw [answer]; rfl) fun fuel => by rw [turn, answer]
          | connectionAborted =>
              exact ends (-2) .connectionLost (by rw [gatherSend, if_neg done]) (by rw [answer]; rfl) fun fuel => by rw [turn, answer]
          | other => exact ends (-1) .socketError (by rw [gatherSend, if_neg done]) (by rw [answer]; rfl) fun fuel => by rw [turn, answer]
      | objectDisposed => exact ends (-2) .disposed (by rw [gatherSend, if_neg done]) (by rw [answer]; rfl) fun fuel => by rw [turn, answer]
      | sent count =>
          by_cases nothing : count ≤ 0
          · refine ends (-1) (.bytes 0) (by rw [gatherSend, if_neg done, if_pos rfl]) (by rw [answer]; exact if_pos nothing) fun fuel => ?_
            rw [turn, answer]
            exact if_pos nothing
          · have positive : 0 < count.toInt := Int.not_le.mp fun less => nothing (Int32.le_iff_toInt_le.mpr less)
            obtain ⟨n, isCount⟩ := Int.eq_ofNat_of_zero_le positive.le
            have plain : count.toInt.toNat = n := by rw [isCount, Int.toNat_natCast]
            have offered := socket.offered call _ count answer
            have room := congrArg List.length handed
            rw [List.length_drop, concatenation_length] at room
            have more : (totalSent + count).toInt = ((t + n : Nat) : Int) := by
              rw [int32_add_small _ _ (by omega) (by omega), sent, isCount, Int.natCast_add]
            obtain ⟨result, sends, counts, gathers, behind, length, loops⟩ :=
              ih (left - n) (by omega) (call + 1) (t + n) (totalSent + count) more (by omega)
            rw [← plain] at behind
            refine ⟨(result.1, (Net.sendSegments t 0 (plainBuffers buffers)).flatten.take n ++ result.2), .bytes n :: sends,
              count.toInt.toNat :: counts, ?_, .took call t _ count counts result.1 some handed answer positive behind, ?_,
              fun fuel enough => ?_⟩
            · rw [gatherSend, if_neg done, if_neg (by omega), if_pos (by omega), gathers]
              rfl
            · rw [List.length_append, List.length_take, Nat.min_eq_left (by omega), length, List.sum_cons, plain]
            · obtain ⟨less, rfl⟩ := Nat.exists_eq_succ_of_ne_zero (Nat.ne_zero_of_lt enough)
              rw [turn, answer]
              dsimp only
              rw [if_neg nothing, loops less (by omega), plain]
              rfl

-- What SendBuffersToClient puts on the socket is the front of the buffers, as many bytes as
-- the calls of Send returned. It returns 0 exactly where that is all of them.
theorem partial_sends (socket : Socket) (buffers : List ArraySegment) (small : totalLength buffers < 2 ^ 31) :
    ∃ code wire counts, (∀ fuel, totalLength buffers < fuel → sendBuffers socket fuel buffers = some (code, wire)) ∧
      wire <+: concatenation buffers ∧ (code = 0 ↔ wire = concatenation buffers) ∧ Sends socket buffers 0 0 counts code ∧
        wire.length = counts.sum := by
  by_cases none : buffers = []
  · refine ⟨0, [], [], fun fuel _ => by rw [sendBuffers, if_pos none], List.nil_prefix, ?_, .all 0 0 ?_, rfl⟩
    · rw [none]
      exact iff_of_true rfl rfl
    · rw [none]
      exact Nat.le_refl 0
  · obtain ⟨result, sends, counts, gathers, calls, length, loops⟩ :=
      loop_gathers socket buffers small (totalLength buffers) 0 0 0 rfl (Nat.zero_add _)
    obtain ⟨code, wire⟩ := result
    have sent : FrontSent (concatenation buffers) code wire := gather_front _ (plain_filled buffers) sends 0 code wire gathers
    refine ⟨code, wire, counts, fun fuel enough => ?_, sent.1, ?_, calls, length⟩
    · rw [sendBuffers, if_neg none]
      exact loops fuel enough
    · rcases sent.2 with ⟨zero, all⟩ | ⟨negative, part⟩
      · exact iff_of_true zero all
      · exact iff_of_false (by omega) part

-- A socket that takes three bytes at a time.
def threeBytes : Socket where
  send _ segments := .sent (Int32.ofNat (min 3 segments.flatten.length))
  offered call segments count same := by
    cases same
    rw [Int32.toInt_ofNat_of_lt (by omega)]
    omega

def gapBuffers : List ArraySegment := [⟨[1, 2, 3], 2, by decide⟩, ⟨[4], 0, by decide⟩, ⟨[5, 6], 2, by decide⟩]

theorem partial_sends_empty_segment :
    totalLength gapBuffers < 2 ^ 31 ∧
      ∃ code wire counts, (∀ fuel, 4 < fuel → sendBuffers threeBytes fuel gapBuffers = some (code, wire)) ∧
        wire <+: [1, 2, 5, 6] ∧ (code = 0 ↔ wire = [1, 2, 5, 6]) ∧ Sends threeBytes gapBuffers 0 0 counts code ∧ wire.length = counts.sum :=
  ⟨by decide, partial_sends threeBytes gapBuffers (by decide)⟩

end RingServer.Net.SendData
