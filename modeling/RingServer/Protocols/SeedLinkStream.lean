import RingServer.Protocols.SeedLinkProtocol

set_option autoImplicit false

namespace RingServer.SeedLink

open Library

def isDigitOrSpaceOrNull (b : UInt8) : Bool := (48 ≤ b && b ≤ 57) || b = 32 || b = 0

def isSeedLinkDataIndicator (b : UInt8) : Bool := b = 68 || b = 82 || b = 81 || b = 77

def isMs3 (data : List UInt8) : Bool := data.getD 0 0 = 77 && data.getD 1 0 = 83 && data.getD 2 0 = 3

def validClock (data : List UInt8) (i : Nat) : Bool := data.getD i 0 ≤ 23 && data.getD (i + 1) 0 ≤ 59 && data.getD (i + 2) 0 ≤ 60

-- data has at least dataLen bytes, so no index is beyond its end.
def isValidMiniSeedHeader (data : List UInt8) (dataLen : Nat) : Bool :=
  if dataLen < 27 then 15 ≤ dataLen && isMs3 data && validClock data 12
  else if isMs3 data then validClock data 12
  else (List.range 6).all (fun i => isDigitOrSpaceOrNull (data.getD i 0)) && isSeedLinkDataIndicator (data.getD 6 0) &&
    (data.getD 7 0 = 32 || data.getD 7 0 = 0) && validClock data 24

-- NET_STA of an FDSN stream ID; any other stream ID as it is.
def stationId (around : Surroundings) (streamId : Text) : Text :=
  if around.startsWithFdsn streamId then
    let parts := streamId.splitOnP fun c => c = ':'
    match (parts.getLastD []).splitOnP fun c => c = '_' with
    | net :: sta :: _ => if 1 < parts.length then net ++ '_' :: sta else []
    | _ => []
  else streamId

def format (data : List UInt8) (dataLen : Nat) : UInt8 :=
  if 3 ≤ dataLen ∧ isMs3 data then 51
  else if 8 ≤ dataLen ∧ isSeedLinkDataIndicator (data.getD 6 0) then 50
  else 32

-- The header in front of dataLen bytes of data. The station ID has a length of one byte.
def frameHeader (around : Surroundings) (protoMajor : Int) (streamId : Text) (pktId : UInt64) (data : List UInt8)
    (dataLen : Nat) : List UInt8 :=
  if protoMajor = 4 then
    let staidBytes := encodeASCII (stationId around streamId)
    let staidLen := UInt8.ofNat staidBytes.length
    [83, 69, format data dataLen, 68] ++ (putUInt32 (UInt32.ofNat dataLen) ++ (putUInt64 pktId ++
      (staidLen :: staidBytes.take staidLen.toNat)))
  else encodeASCII ('S' :: 'L' :: hex6 (pktId &&& 0xFFFFFF).toNat)

def handleDbQueueExhausted (around : Surroundings) (fuel : Nat) (ring : RingParams) (session : Session) : Option Session :=
  let ext := session.ext
  let nextBatch : Option (List MseedQueryResult) := do
    let archive ← around.archive
    if ext.dbQueryEndTime ≠ NsTime.unset ∧ ext.lastDbStartTime.value < ext.dbQueryEndTime.value ∧ ext.lastDbRecordId > 0 ∧
        ¬ ext.dbQueryStreamIds.isEmpty then
      archive.queryByTimePagination ext.dbQueryStreamIds ext.lastDbStartTime ext.dbQueryEndTime ext.lastDbStartTime
        ext.lastDbRecordId 10000
    else none
  match nextBatch with
  | some (record :: records) => some (session.withExt { ext with dbRecords := record :: records })
  | _ => do
      let (repositioned, reader) ← RingBuffer.after fuel ring session.client.reader ext.lastDbEndTime 0
      if repositioned ≠ Constants.ringIdNone ∧ repositioned ≠ Constants.ringIdError then some (session.withReader reader)
      else some (session.withReader { reader with pktOffset := -1, pktId := Constants.ringIdNext })

def dequeued (session : Session) (record : MseedQueryResult) (records : List MseedQueryResult) : Session :=
  session.withExt { session.ext with
    dbRecords := records
    lastDbStartTime := record.startTime
    lastDbEndTime := record.endTime
    lastDbRecordId := record.id }

-- int totalSent, where a sum beyond its range wraps.
def totalSent (total : Nat) : Int := max 0 (Int.bmod total (2 ^ 32))

-- The records of the archive, up to DbBurstLimit of them. A record without bytes ends
-- the burst, and one without an array is an exception.
def sendRecords (around : Surroundings) (fuel : Nat) (ring : RingParams) :
    Nat → Session → Nat → List (List UInt8) → Option Outcome
  | 0, session, total, sent => some ⟨totalSent total, session, sent⟩
  | rounds + 1, session, total, sent =>
      match session.ext.dbRecords with
      | [] => some ⟨totalSent total, session, sent⟩
      | record :: records =>
          let session := dequeued session record records
          match record.rawData with
          | none => none
          | some [] => some ⟨0, session, sent⟩
          | some rawData => do
              let frame := frameHeader around session.ext.protoMajor record.streamId record.pktId rawData rawData.length ++ rawData
              let session ← if records.isEmpty then handleDbQueueExhausted around fuel ring session else some session
              sendRecords around fuel ring rounds session (total + frame.length) (sent ++ [frame])

def dbBurstLimit : Nat := 200

def cachedBuffers (ring : RingParams) (ext : SLExtInfo) : Option (RingPacket × List UInt8) :=
  match ext.cached.filter fun cached => cached.2.length = (DataLink.packetSize ring).toNat with
  | some cached => some cached
  | none => (DataLink.newData ring).map fun packetData => (DataLink.newPacket, packetData)

def trimEndBlank (streamId : Text) : Text := streamId.rdropWhile fun c => c = nul || c = ' '

def streamPacket (around : Surroundings) (fuel : Nat) (ring : RingParams) (session : Session) : Option Outcome := do
  let (packet, packetData) ← cachedBuffers ring session.ext
  let cleared := packetData.map fun _ => 0
  let reading ← RingBuffer.readNext fuel ring session.client.reader packet (some cleared)
  let packetData := reading.data.getD cleared
  let session := (session.withReader reading.reader).withExt { session.ext with cached := some (reading.packet, packetData) }
  if reading.code = Constants.ringIdError then some ⟨-1, session, []⟩
  else if reading.code = Constants.ringIdNone then some (silent session)
  else if reading.packet.dataSize = 0 then some (silent session)
  else
    let dataLen := min reading.packet.dataSize.toNat packetData.length
    -- A packet that is no miniSEED is skipped with a count, so that the client loop goes on.
    if ¬ isValidMiniSeedHeader packetData dataLen then some ⟨dataLen, session, []⟩
    else
      let header := frameHeader around session.ext.protoMajor (trimEndBlank reading.packet.streamId) reading.code packetData dataLen
      some ⟨header.length + dataLen, session, [header ++ packetData.take dataLen]⟩

def streamPackets (around : Surroundings) (fuel : Nat) (ring : RingParams) (session : Session) : Option Outcome :=
  if session.client.state = .stream then
    if session.ext.dbRecords.isEmpty then streamPacket around fuel ring session
    else sendRecords around fuel ring dbBurstLimit session 0 []
  else some (silent session)

end RingServer.SeedLink
