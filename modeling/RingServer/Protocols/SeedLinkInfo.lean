import RingServer.Protocols.SeedLinkProtocol

set_option autoImplicit false

namespace RingServer.SeedLink

open Library

def getBEUInt16 (span : List UInt8) : Nat := 256 * (span.getD 0 0).toNat + (span.getD 1 0).toNat

-- What a client takes from a record of 512 bytes: as many bytes as it has samples, from its
-- data offset on.
def recordData (record : List UInt8) : List UInt8 :=
  (record.drop (getBEUInt16 (record.drop 44))).take (getBEUInt16 (record.drop 30))

def infoData (frame : List UInt8) : List UInt8 := recordData (frame.drop 8)

def Continued (frame : List UInt8) : Prop := frame.take 8 = encodeASCII "SLINFO *".toList

def Final (frame : List UInt8) : Prop := frame.take 8 = encodeASCII "SLINFO  ".toList

theorem get_put_be (value : Nat) (small : value < 65536) (rest : List UInt8) : getBEUInt16 (putBEUInt16 value ++ rest) = value := by
  have high : (UInt8.ofNat (value / 256)).toNat = value / 256 := by
    rw [UInt8.toNat_ofNat', Nat.mod_eq_of_lt (by omega)]
  have low : (UInt8.ofNat value).toNat = value % 256 := UInt8.toNat_ofNat'
  show 256 * (UInt8.ofNat (value / 256)).toNat + (UInt8.ofNat value).toNat = value
  rw [high, low]
  exact Nat.div_add_mod value 256

theorem info_record_split (around : Surroundings) (errflag : Bool) (seqnum : Nat) (part : List UInt8) :
    ∃ start middle stop, infoRecord around errflag seqnum part = start ++ (putBEUInt16 part.length ++ (middle ++ (putBEUInt16 56 ++
        (stop ++ (part ++ List.replicate (infoCapacity - part.length) 0))))) ∧
      start.length = 30 ∧ middle.length = 12 ∧ stop.length = 10 := by
  rcases isNow : around.utcNow with ⟨year, yday, hour, min, sec⟩
  generalize isDigits : List.replicate (6 - (decimal seqnum).length) '0' ++ decimal seqnum = digits
  generalize isChannel : (if errflag then "ERR".toList else "INF".toList) = channel
  have six : (digits.take 6).length = 6 := by
    rw [List.length_take, ← isDigits, List.length_append, List.length_replicate]
    omega
  have three : channel.length = 3 := by
    rw [← isChannel]
    cases errflag <;> rfl
  have names : ("D INFO   ".toList).length = 9 := rfl
  refine ⟨encodeASCII (digits.take 6 ++ ("D INFO   ".toList ++ (channel ++ "XX".toList))) ++ (putBEUInt16 year ++
    (putBEUInt16 yday ++ [UInt8.ofNat hour, UInt8.ofNat min, UInt8.ofNat sec, 0, 0, 0])), List.replicate 7 0 ++ [1, 0, 0, 0, 0],
    putBEUInt16 48 ++ (putBEUInt16 1000 ++ [0, 0, 0, 1, 9, 0]), ?_, ?_, rfl, rfl⟩
  · simp only [infoRecord, isNow, isDigits, isChannel, List.append_assoc]
  · rw [List.length_append, encode_length, List.length_append, six, List.length_append, names, List.length_append, three]
    rfl

theorem record_data_part (around : Surroundings) (errflag : Bool) (seqnum : Nat) (part : List UInt8) (fits : part.length ≤ infoCapacity) :
    recordData (infoRecord around errflag seqnum part) = part ∧ (infoRecord around errflag seqnum part).length = 512 := by
  have capacity : infoCapacity = 456 := rfl
  obtain ⟨start, middle, stop, record, isStart, isMiddle, isStop⟩ := info_record_split around errflag seqnum part
  rw [record]
  generalize isPadded : part ++ List.replicate (infoCapacity - part.length) 0 = padded
  have size : padded.length = 456 := by
    rw [← isPadded, List.length_append, List.length_replicate]
    omega
  have two (value : Nat) : (putBEUInt16 value).length = 2 := rfl
  have samples : (start ++ (putBEUInt16 part.length ++ (middle ++ (putBEUInt16 56 ++ (stop ++ padded))))).drop 30 =
      putBEUInt16 part.length ++ (middle ++ (putBEUInt16 56 ++ (stop ++ padded))) := List.drop_left' isStart
  have dataOffset : (start ++ (putBEUInt16 part.length ++ (middle ++ (putBEUInt16 56 ++ (stop ++ padded))))).drop 44 =
      putBEUInt16 56 ++ (stop ++ padded) := by
    rw [← List.append_assoc start, ← List.append_assoc (start ++ putBEUInt16 part.length)]
    refine List.drop_left' ?_
    rw [List.length_append, List.length_append, isStart, isMiddle, two]
  have data : (start ++ (putBEUInt16 part.length ++ (middle ++ (putBEUInt16 56 ++ (stop ++ padded))))).drop 56 = padded := by
    have twelve : (putBEUInt16 56 ++ stop).length = 12 := by rw [List.length_append, isStop, two]
    have split : (56 : Nat) = 44 + 12 := rfl
    rw [split, ← List.drop_drop, dataOffset, ← List.append_assoc]
    exact List.drop_left' twelve
  refine ⟨?_, ?_⟩
  · rw [recordData, samples, dataOffset, get_put_be part.length (by omega), get_put_be 56 (by decide), data, ← isPadded, List.take_left]
  · simp only [List.length_append, isStart, isMiddle, isStop, two, size]

theorem info_frame_data (around : Surroundings) (errflag : Bool) (seqnum : Nat) (header : Text) (part : List UInt8)
    (eight : header.length = 8) (fits : part.length ≤ infoCapacity) :
    infoData (encodeASCII header ++ infoRecord around errflag seqnum part) = part ∧
      (encodeASCII header ++ infoRecord around errflag seqnum part).length = 520 ∧
      (encodeASCII header ++ infoRecord around errflag seqnum part).take 8 = encodeASCII header := by
  obtain ⟨data, size⟩ := record_data_part around errflag seqnum part fits
  have length : (encodeASCII header).length = 8 := by rw [encode_length, eight]
  refine ⟨?_, ?_, List.take_left' length⟩
  · rw [infoData, List.drop_left' length, data]
  · rw [List.length_append, length, size]

theorem info_frames_pack (around : Surroundings) (errflag : Bool) (fuel seqnum : Nat) (xml : List UInt8) (enough : xml.length < fuel) :
    ∃ front last, infoFrames around errflag fuel seqnum xml = front ++ [last] ∧ front.length = (xml.length - 1) / infoCapacity ∧
      (front ++ [last]).flatMap infoData = xml ∧ (∀ frame ∈ front ++ [last], frame.length = 520) ∧
      (∀ frame ∈ front, Continued frame) ∧ Final last := by
  have capacity : infoCapacity = 456 := rfl
  induction fuel generalizing seqnum xml with
  | zero => exact absurd enough (Nat.not_lt_zero _)
  | succ fuel ih =>
      have fits : (xml.take infoCapacity).length ≤ infoCapacity := List.length_take_le _ _
      rw [infoFrames]
      by_cases lastRecord : xml.length ≤ infoCapacity
      · obtain ⟨data, size, flag⟩ := info_frame_data around errflag seqnum "SLINFO  ".toList (xml.take infoCapacity) rfl fits
        simp only [if_pos lastRecord]
        refine ⟨[], _, rfl, ?_, ?_, ?_, fun frame member => absurd member List.not_mem_nil, flag⟩
        · rw [List.length_nil, Nat.div_eq_of_lt (by omega)]
        · rw [List.nil_append, List.flatMap_singleton, data, List.take_of_length_le lastRecord]
        · intro frame member
          obtain rfl := List.mem_singleton.mp member
          exact size
      · obtain ⟨data, size, flag⟩ := info_frame_data around errflag seqnum "SLINFO *".toList (xml.take infoCapacity) rfl fits
        have shorter : (xml.drop infoCapacity).length = xml.length - infoCapacity := List.length_drop
        obtain ⟨front, last, frames, count, rest, sizes, continued, final⟩ := ih (seqnum + 1) (xml.drop infoCapacity) (by omega)
        simp only [if_neg lastRecord, frames]
        refine ⟨_ :: front, last, rfl, ?_, ?_, ?_, ?_, final⟩
        · rw [List.length_cons, count, shorter, capacity]
          omega
        · rw [List.cons_append, List.flatMap_cons, data, rest, List.take_append_drop]
        · intro frame member
          rcases List.mem_cons.mp member with rfl | inside
          · exact size
          · exact sizes frame inside
        · intro frame member
          rcases List.mem_cons.mp member with rfl | inside
          · exact flag
          · exact continued frame inside

theorem info_frames_fuel (around : Surroundings) (errflag : Bool) (fuel more seqnum : Nat) (xml : List UInt8)
    (enough : xml.length < fuel) (enough' : xml.length < more) :
    infoFrames around errflag fuel seqnum xml = infoFrames around errflag more seqnum xml := by
  have capacity : infoCapacity = 456 := rfl
  induction fuel generalizing more seqnum xml with
  | zero => exact absurd enough (Nat.not_lt_zero _)
  | succ fuel ih =>
      obtain ⟨more, rfl⟩ : ∃ less, more = less + 1 := ⟨more - 1, by omega⟩
      rw [infoFrames, infoFrames]
      by_cases lastRecord : xml.length ≤ infoCapacity
      · simp only [if_pos lastRecord]
      · have shorter : (xml.drop infoCapacity).length = xml.length - infoCapacity := List.length_drop
        simp only [if_neg lastRecord, ih more (seqnum + 1) (xml.drop infoCapacity) (by omega) (by omega)]

-- A client that puts the data of the records together has the document.
theorem info_unpacked (around : Surroundings) (session : Session) (xml : List UInt8) (errflag : Bool) :
    ∃ front last, (sendInfoMseed around session xml errflag).sent = front ++ [last] ∧
      front.length = (xml.length - 1) / infoCapacity ∧ (front ++ [last]).flatMap infoData = xml ∧
      (∀ frame ∈ front ++ [last], frame.length = 520) ∧ (∀ frame ∈ front, Continued frame) ∧ Final last ∧
      ∀ fuel, xml.length < fuel → infoFrames around errflag fuel 1 xml = (sendInfoMseed around session xml errflag).sent := by
  obtain ⟨front, last, frames, count, data, sizes, continued, final⟩ :=
    info_frames_pack around errflag (xml.length + 1) 1 xml (Nat.lt_succ_self _)
  refine ⟨front, last, frames, count, data, sizes, continued, final, ?_⟩
  exact fun fuel enough => info_frames_fuel around errflag fuel (xml.length + 1) 1 xml enough (Nat.lt_succ_self _)

end RingServer.SeedLink
