import RingServer.Ring.RingBuffer

set_option autoImplicit false

namespace RingServer

structure SameFilters (old new : RingReader) : Prop where
  limit : new.limit = old.limit
  matching : new.matching = old.matching
  reject : new.reject = old.reject

theorem same_filters_refl (reader : RingReader) : SameFilters reader reader := ⟨rfl, rfl, rfl⟩

theorem move_to_filters (reader : RingReader) (offset : Int64) (pkt : RingPacket) :
    SameFilters reader (RingBuffer.moveTo reader offset pkt) := ⟨rfl, rfl, rfl⟩

theorem same_filters_trans (first second third : RingReader) (before : SameFilters first second) (after : SameFilters second third) :
    SameFilters first third :=
  ⟨after.limit.trans before.limit, after.matching.trans before.matching, after.reject.trans before.reject⟩

inductive ScanTurn (ring : RingParams) (latestPTime : NsTime) (eobOffset : Int64) (packet : RingPacket) (data : Option (List UInt8))
    (fuel skipped : Nat) (reader : RingReader) (offset : Int64) (reading : RingBuffer.Reading) : Prop
  | stopped (isReading : reading = ⟨Constants.ringIdNone, reader, packet, data⟩)
  | restarted (pkt : RingPacket) (isRead : RingBuffer.readPacketAtOffset ring offset = some pkt)
      (late : pkt.pktTime.value > latestPTime.value)
      (rest : RingBuffer.readNextFrom ring latestPTime eobOffset packet data fuel (skipped + 1) reader ring.earliestOffset = some reading)
  | skipped (pkt : RingPacket) (isRead : RingBuffer.readPacketAtOffset ring offset = some pkt)
      (rest : RingBuffer.readNextFrom ring latestPTime eobOffset packet data fuel 0 (RingBuffer.moveTo reader offset pkt)
        (RingBuffer.nextOffset offset ring.maxOffset ring.pktSize) = some reading)
  | met (pkt : RingPacket) (isRead : RingBuffer.readPacketAtOffset ring offset = some pkt) (code : UInt64)
      (copied : Option (List UInt8)) (isCopied : RingBuffer.copyData ring offset pkt.dataSize data = some copied)
      (isCode : code = Constants.ringIdNone ∨ code = pkt.pktId)
      (isReading : reading = ⟨code, RingBuffer.moveTo reader offset pkt, pkt, copied⟩)

theorem read_next_from_turn (ring : RingParams) (latestPTime : NsTime) (eobOffset : Int64) (packet : RingPacket)
    (data : Option (List UInt8)) (fuel skipped : Nat) (reader : RingReader) (offset : Int64) (reading : RingBuffer.Reading)
    (ran : RingBuffer.readNextFrom ring latestPTime eobOffset packet data (fuel + 1) skipped reader offset = some reading) :
    ScanTurn ring latestPTime eobOffset packet data fuel skipped reader offset reading := by
  rw [RingBuffer.readNextFrom] at ran
  by_cases atEnd : offset = eobOffset
  · rw [if_pos atEnd] at ran
    exact .stopped (Option.some.inj ran).symm
  rw [if_neg atEnd] at ran
  cases read : RingBuffer.readPacketAtOffset ring offset with
  | none =>
      rw [read] at ran
      exact .stopped (Option.some.inj ran).symm
  | some pkt =>
      rw [read] at ran
      dsimp only at ran
      by_cases late : pkt.pktTime.value > latestPTime.value
      · rw [if_pos late] at ran
        by_cases many : skipped + 1 ≥ 100
        · rw [if_pos many] at ran
          exact .stopped (Option.some.inj ran).symm
        · rw [if_neg many] at ran
          exact .restarted pkt read late ran
      rw [if_neg late] at ran
      by_cases pass : RingBuffer.passes (RingBuffer.moveTo reader offset pkt) pkt.streamId = true
      · rw [if_pos pass, Option.bind_eq_bind, Option.bind_eq_some_iff] at ran
        obtain ⟨copied, isCopied, ran⟩ := ran
        by_cases inside : (RingBuffer.bufOffset ring offset + 16 + 8).toInt ≤ ring.dataBuffer.length
        · rw [if_pos inside, Option.bind_eq_bind, Option.bind_eq_some_iff] at ran
          obtain ⟨live, _, ran⟩ := ran
          by_cases changed : pkt.pktTime.value ≠ getInt64 live
          · rw [if_pos changed] at ran
            exact .met pkt read _ copied isCopied (Or.inl rfl) (Option.some.inj ran).symm
          · rw [if_neg changed] at ran
            exact .met pkt read _ copied isCopied (Or.inr rfl) (Option.some.inj ran).symm
        · rw [if_neg inside] at ran
          exact .met pkt read _ copied isCopied (Or.inr rfl) (Option.some.inj ran).symm
      · rw [if_neg pass] at ran
        exact .skipped pkt read ran

-- A call of ReadNext ends before the loop, or the loop runs from some place.
inductive NextCall (fuel : Nat) (ring : RingParams) (reader : RingReader) (packet : RingPacket) (data : Option (List UInt8))
    (reading : RingBuffer.Reading) : Prop
  | idle (isPacket : reading.packet = packet) (isData : reading.data = data)
      (isCode : reading.code = Constants.ringIdNone ∨ reading.code = Constants.ringIdError)
      (filters : SameFilters reader reading.reader)
      (place : reading.reader = reader ∨ ¬ reading.reader.pktOffset < 0 ∨
        (reader.pktId = Constants.ringIdNext ∧ reading.reader = { reader with pktId := Constants.ringIdEarliest }))
  | scans (latestPTime : NsTime) (eobOffset start : Int64)
      (ran : RingBuffer.readNextFrom ring latestPTime eobOffset packet data fuel 0 reader start = some reading)

theorem read_next_call (fuel : Nat) (ring : RingParams) (reader : RingReader) (packet : RingPacket) (data : Option (List UInt8))
    (reading : RingBuffer.Reading) (ran : RingBuffer.readNext fuel ring reader packet data = some reading) :
    NextCall fuel ring reader packet data reading := by
  rw [RingBuffer.readNext] at ran
  by_cases empty : ring.latestOffset < 0
  · rw [if_pos empty] at ran
    cases ran
    by_cases next : reader.pktOffset < 0 ∧ reader.pktId = Constants.ringIdNext
    · simp only [if_pos next]
      have filters : SameFilters reader { reader with pktId := Constants.ringIdEarliest } := ⟨rfl, rfl, rfl⟩
      exact .idle rfl rfl (Or.inl rfl) filters (Or.inr (Or.inr ⟨next.2, rfl⟩))
    · simp only [if_neg next]
      exact .idle rfl rfl (Or.inl rfl) (same_filters_refl reader) (Or.inl rfl)
  rw [if_neg empty] at ran
  dsimp only at ran
  by_cases short : (ring.dataBuffer.length : Int) < (RingBuffer.bufOffset ring ring.latestOffset + 112).toInt
  · rw [if_pos short] at ran
    cases ran
    exact .idle rfl rfl (Or.inl rfl) (same_filters_refl reader) (Or.inl rfl)
  rw [if_neg short] at ran
  simp only [Option.bind_eq_bind, Option.bind_eq_some_iff] at ran
  obtain ⟨_, _, _, _, _, _, _, _, ran⟩ := ran
  by_cases before : reader.pktOffset < 0
  · rw [if_pos before] at ran
    by_cases next : reader.pktId = Constants.ringIdNext
    · rw [if_pos next] at ran
      cases ran
      exact .idle rfl rfl (Or.inl rfl) ⟨rfl, rfl, rfl⟩ (Or.inr (Or.inl empty))
    rw [if_neg next] at ran
    by_cases latest : reader.pktId = Constants.ringIdLatest
    · rw [if_pos latest] at ran
      exact .scans _ _ _ ran
    rw [if_neg latest] at ran
    by_cases earliest : reader.pktId = Constants.ringIdEarliest
    · rw [if_pos earliest] at ran
      exact .scans _ _ _ ran
    rw [if_neg earliest] at ran
    cases ran
    exact .idle rfl rfl (Or.inr rfl) (same_filters_refl reader) (Or.inl rfl)
  · rw [if_neg before] at ran
    exact .scans _ _ _ ran

theorem read_next_from_filters (ring : RingParams) (latestPTime : NsTime) (eobOffset : Int64) (packet : RingPacket)
    (data : Option (List UInt8)) (fuel skipped : Nat) (reader : RingReader) (offset : Int64) (reading : RingBuffer.Reading)
    (ran : RingBuffer.readNextFrom ring latestPTime eobOffset packet data fuel skipped reader offset = some reading) :
    SameFilters reader reading.reader := by
  induction fuel generalizing skipped reader offset with
  | zero => cases ran
  | succ fuel ih =>
      cases read_next_from_turn ring latestPTime eobOffset packet data fuel skipped reader offset reading ran with
      | stopped isReading =>
          rw [isReading]
          exact same_filters_refl reader
      | restarted pkt isRead late rest => exact ih _ _ _ rest
      | skipped pkt isRead rest => exact same_filters_trans _ _ _ (move_to_filters reader offset pkt) (ih _ _ _ rest)
      | met pkt isRead code copied isCopied isCode isReading =>
          rw [isReading]
          exact move_to_filters reader offset pkt

theorem read_next_filters (fuel : Nat) (ring : RingParams) (reader : RingReader) (packet : RingPacket) (data : Option (List UInt8))
    (reading : RingBuffer.Reading) (ran : RingBuffer.readNext fuel ring reader packet data = some reading) :
    SameFilters reader reading.reader := by
  cases read_next_call fuel ring reader packet data reading ran with
  | idle isPacket isData isCode filters place => exact filters
  | scans latestPTime eobOffset start scanned => exact read_next_from_filters _ _ _ _ _ _ _ _ _ _ scanned

theorem read_next_from_packet (ring : RingParams) (latestPTime : NsTime) (eobOffset : Int64) (packet : RingPacket)
    (data : Option (List UInt8)) (fuel skipped : Nat) (reader : RingReader) (offset : Int64) (reading : RingBuffer.Reading)
    (ran : RingBuffer.readNextFrom ring latestPTime eobOffset packet data fuel skipped reader offset = some reading) :
    reading.code = Constants.ringIdNone ∨ reading.code = reading.packet.pktId ∧
      ∃ place, RingBuffer.readPacketAtOffset ring place = some reading.packet := by
  induction fuel generalizing skipped reader offset with
  | zero => cases ran
  | succ fuel ih =>
      cases read_next_from_turn ring latestPTime eobOffset packet data fuel skipped reader offset reading ran with
      | stopped isReading => exact Or.inl (by rw [isReading])
      | restarted pkt isRead late rest => exact ih _ _ _ rest
      | skipped pkt isRead rest => exact ih _ _ _ rest
      | met pkt isRead code copied isCopied isCode isReading =>
          rw [isReading]
          exact isCode.imp id fun same => ⟨same, offset, isRead⟩

theorem read_next_packet (fuel : Nat) (ring : RingParams) (reader : RingReader) (packet : RingPacket) (data : Option (List UInt8))
    (reading : RingBuffer.Reading) (ran : RingBuffer.readNext fuel ring reader packet data = some reading)
    (notError : reading.code ≠ Constants.ringIdError) (notNone : reading.code ≠ Constants.ringIdNone) :
    reading.code = reading.packet.pktId ∧ ∃ place, RingBuffer.readPacketAtOffset ring place = some reading.packet := by
  cases read_next_call fuel ring reader packet data reading ran with
  | idle isPacket isData isCode filters place => exact absurd isCode (not_or.mpr ⟨notNone, notError⟩)
  | scans latestPTime eobOffset start scanned =>
      exact (read_next_from_packet _ _ _ _ _ _ _ _ _ _ scanned).resolve_left notNone

theorem position_filters (fuel : Nat) (ring : RingParams) (reader : RingReader) (pktId : UInt64) (pktTime : NsTime)
    (result : UInt64 × RingReader) (ran : RingBuffer.position fuel ring reader pktId pktTime = some result) :
    SameFilters reader result.2 := by
  rw [RingBuffer.position] at ran
  dsimp only at ran
  generalize (if pktId = Constants.ringIdEarliest then ring.earliestId
    else if pktId = Constants.ringIdLatest then ring.latestId else pktId) = target at ran
  by_cases reserved : target > Constants.ringIdMaximum
  · rw [if_pos reserved] at ran
    cases ran
    exact same_filters_refl reader
  rw [if_neg reserved, Option.bind_eq_bind, Option.bind_eq_some_iff] at ran
  obtain ⟨found, _, ran⟩ := ran
  cases found with
  | none =>
      cases ran
      exact same_filters_refl reader
  | some place =>
      dsimp only at ran
      cases read : RingBuffer.readPacketAtOffset ring place.1 with
      | none =>
          rw [read] at ran
          cases ran
          exact same_filters_refl reader
      | some pkt =>
          rw [read] at ran
          dsimp only at ran
          by_cases timed : pktTime ≠ NsTime.unset ∧ pktTime ≠ NsTime.error ∧ pktTime ≠ place.2
          · rw [if_pos timed] at ran
            cases ran
            exact same_filters_refl reader
          rw [if_neg timed] at ran
          by_cases other : target ≠ pkt.pktId
          · rw [if_pos other] at ran
            cases ran
            exact same_filters_refl reader
          · rw [if_neg other] at ran
            cases ran
            exact ⟨rfl, rfl, rfl⟩

theorem after_filters (fuel : Nat) (ring : RingParams) (reader : RingReader) (refTime : NsTime) (whence : Int)
    (result : UInt64 × RingReader) (ran : RingBuffer.after fuel ring reader refTime whence = some result) :
    SameFilters reader result.2 := by
  have scan : ∀ (eobOffset : Int64) (fuel : Nat) (offset : Int64),
      RingBuffer.afterFrom ring refTime eobOffset reader fuel offset = some result → SameFilters reader result.2 := by
    intro eobOffset fuel
    induction fuel with
    | zero => exact fun _ ran => nomatch ran
    | succ fuel ih =>
        intro offset ran
        rw [RingBuffer.afterFrom] at ran
        by_cases atEnd : offset = eobOffset
        · rw [if_pos atEnd] at ran
          cases ran
          exact same_filters_refl reader
        rw [if_neg atEnd] at ran
        cases read : RingBuffer.readPacketAtOffset ring offset with
        | none =>
            rw [read] at ran
            cases ran
            exact same_filters_refl reader
        | some pkt =>
            rw [read] at ran
            dsimp only at ran
            by_cases hit : pkt.dataStart.value ≥ refTime.value
            · rw [if_pos hit] at ran
              cases ran
              exact move_to_filters reader offset pkt
            · rw [if_neg hit] at ran
              exact ih _ ran
  rw [RingBuffer.after] at ran
  by_cases empty : ring.latestOffset < 0
  · rw [if_pos empty] at ran
    cases ran
    exact same_filters_refl reader
  · rw [if_neg empty] at ran
    exact scan _ _ _ ran

theorem after_rev_filters (fuel : Nat) (ring : RingParams) (reader : RingReader) (refTime : NsTime) (pktLimit : UInt64)
    (result : UInt64 × RingReader) (ran : RingBuffer.afterRev fuel ring reader refTime pktLimit = some result) :
    SameFilters reader result.2 := by
  have scan : ∀ (fuel : Nat) (count : UInt64) (reader : RingReader) (offset : Int64),
      RingBuffer.afterRevFrom ring refTime pktLimit fuel count reader offset = some result → SameFilters reader result.2 := by
    intro fuel
    induction fuel with
    | zero => exact fun _ _ _ ran => nomatch ran
    | succ fuel ih =>
        intro count reader offset ran
        rw [RingBuffer.afterRevFrom] at ran
        dsimp only at ran
        by_cases stop : ¬ (offset ≥ 0 ∧ count < pktLimit)
        · rw [if_pos stop] at ran
          cases ran
          exact same_filters_refl reader
        rw [if_neg stop] at ran
        cases read : RingBuffer.readPacketAtOffset ring offset with
        | none =>
            rw [read] at ran
            cases ran
            exact same_filters_refl reader
        | some pkt =>
            rw [read] at ran
            dsimp only at ran
            generalize decide (pkt.dataStart.value ≥ refTime.value) = hit at ran
            have moved : SameFilters reader (if hit = true then RingBuffer.moveTo reader offset pkt else reader) := by
              cases hit with
              | true => exact move_to_filters reader offset pkt
              | false => exact same_filters_refl reader
            generalize (if hit = true then RingBuffer.moveTo reader offset pkt else reader) = next at ran moved
            generalize (if hit = true then count + 1 else count) = count' at ran
            by_cases enough : hit = true ∧ count' ≥ pktLimit
            · rw [if_pos enough] at ran
              cases ran
              exact moved
            rw [if_neg enough] at ran
            by_cases around : (if offset = 0 then ring.maxOffset else offset - ring.pktSize.toUInt64.toInt64) = ring.latestOffset
            · rw [if_pos around] at ran
              cases ran
              exact moved
            · rw [if_neg around] at ran
              exact same_filters_trans _ _ _ moved (ih _ _ _ ran)
  rw [RingBuffer.afterRev] at ran
  by_cases empty : ring.latestOffset < 0
  · rw [if_pos empty] at ran
    cases ran
    exact same_filters_refl reader
  · rw [if_neg empty] at ran
    exact scan _ _ _ _ ran

theorem read_next_from_passes (ring : RingParams) (latestPTime : NsTime) (eobOffset : Int64) (packet : RingPacket)
    (data : Option (List UInt8)) (fuel skipped : Nat) (reader : RingReader) (offset : Int64) (reading : RingBuffer.Reading)
    (ran : RingBuffer.readNextFrom ring latestPTime eobOffset packet data fuel skipped reader offset = some reading) :
    reading.code = Constants.ringIdNone ∨ RingBuffer.passes reader reading.packet.streamId = true := by
  induction fuel generalizing skipped reader offset with
  | zero => cases ran
  | succ fuel ih =>
      rw [RingBuffer.readNextFrom] at ran
      split at ran
      · cases ran
        exact .inl rfl
      split at ran
      · cases ran
        exact .inl rfl
      rename_i pkt _
      split at ran
      · split at ran
        · cases ran
          exact .inl rfl
        · exact ih _ _ _ ran
      dsimp only at ran
      by_cases pass : RingBuffer.passes (RingBuffer.moveTo reader offset pkt) pkt.streamId = true
      · rw [if_pos pass, Option.bind_eq_bind, Option.bind_eq_some_iff] at ran
        obtain ⟨copied, _, ran⟩ := ran
        split at ran
        · rw [Option.bind_eq_bind, Option.bind_eq_some_iff] at ran
          obtain ⟨live, _, ran⟩ := ran
          split at ran
          · cases ran
            exact .inl rfl
          · cases ran
            exact .inr pass
        · cases ran
          exact .inr pass
      · rw [if_neg pass] at ran
        have later := ih _ _ _ ran
        exact later

theorem read_next_passes (fuel : Nat) (ring : RingParams) (reader : RingReader) (packet : RingPacket) (data : Option (List UInt8))
    (reading : RingBuffer.Reading) (ran : RingBuffer.readNext fuel ring reader packet data = some reading)
    (notError : reading.code ≠ Constants.ringIdError) (notNone : reading.code ≠ Constants.ringIdNone) :
    RingBuffer.passes reader reading.packet.streamId = true := by
  cases read_next_call fuel ring reader packet data reading ran with
  | idle isPacket isData isCode filters place => exact absurd isCode (not_or.mpr ⟨notNone, notError⟩)
  | scans latestPTime eobOffset start scanned => exact (read_next_from_passes _ _ _ _ _ _ _ _ _ _ scanned).resolve_left notNone

end RingServer
