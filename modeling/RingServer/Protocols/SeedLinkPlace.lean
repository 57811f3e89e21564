import RingServer.Protocols.SeedLinkStream

set_option autoImplicit false

namespace RingServer.SeedLink

open Library

def Sentinel (pktId : UInt64) : Prop :=
  pktId = Constants.ringIdNext ∨ pktId = Constants.ringIdLatest ∨ pktId = Constants.ringIdEarliest

instance (pktId : UInt64) : Decidable (Sentinel pktId) := inferInstanceAs (Decidable (_ ∨ _))

def Startable (reader : RingReader) : Prop := ¬ reader.pktOffset < 0 ∨ Sentinel reader.pktId

structure SamePlace (old new : Session) : Prop where
  state : new.client.state = old.client.state
  dbRecords : new.ext.dbRecords = old.ext.dbRecords
  pktOffset : new.client.reader.pktOffset = old.client.reader.pktOffset
  pktId : new.client.reader.pktId = old.client.reader.pktId

structure Touched (old new : Session) : Prop where
  client : ∃ matching reject limit,
    new.client = { old.client with reader := { old.client.reader with matching := matching, reject := reject, limit := limit } }
  ext : ∃ currentStation inStationMode selectedStations protoMajor protoMinor,
    new.ext = { old.ext with
      currentStation := currentStation
      inStationMode := inStationMode
      selectedStations := selectedStations
      protoMajor := protoMajor
      protoMinor := protoMinor }

theorem touched_refl (session : Session) : Touched session session := ⟨⟨_, _, _, rfl⟩, ⟨_, _, _, _, _, rfl⟩⟩

theorem touched_same_place (old new : Session) (touched : Touched old new) : SamePlace old new := by
  obtain ⟨⟨matching, reject, limit, isClient⟩, currentStation, inStationMode, selectedStations, protoMajor, protoMinor, isExt⟩ := touched
  exact ⟨by rw [isClient], by rw [isExt], by rw [isClient], by rw [isClient]⟩

section

variable (around : Surroundings) (fuel : Nat) (ring : RingParams) (session : Session)

theorem handle_station_touched (parts : List Text) : Touched session (handleStation around session parts).session := by
  rw [handleStation.eq_def]
  split
  · by_cases streams : session.client.state = .stream
    · simp only [if_pos streams]
      exact ⟨⟨_, _, _, rfl⟩, ⟨_, _, _, _, _, rfl⟩⟩
    · simp only [if_neg streams]
      exact ⟨⟨_, _, _, rfl⟩, ⟨_, _, _, _, _, rfl⟩⟩
  · exact touched_refl session

theorem handle_select_touched (cmd : Text) : Touched session (handleSelect around session cmd).session := by
  rw [handleSelect]
  split
  · exact touched_refl session
  rename_i selector isSelector
  by_cases empty : selector.isEmpty = true
  · rw [if_pos empty]
    exact touched_refl session
  rw [if_neg empty]
  split
  · exact touched_refl session
  by_cases streams : session.client.state = .stream
  · simp only [if_pos streams]
    exact ⟨⟨_, _, _, rfl⟩, ⟨_, _, _, _, _, rfl⟩⟩
  · simp only [if_neg streams]
    exact ⟨⟨_, _, _, rfl⟩, ⟨_, _, _, _, _, rfl⟩⟩

theorem handle_pattern_touched (set : RingReader → Option (Text → Bool) → RingReader)
    (sets : ∀ reader code, ∃ matching reject limit,
      set reader code = { reader with matching := matching, reject := reject, limit := limit }) (cmd : Text) :
    Touched session (handlePattern set around session cmd).session := by
  rw [handlePattern]
  split
  · exact touched_refl session
  · rename_i pattern isPattern
    obtain ⟨matching, reject, limit, isSet⟩ := sets session.client.reader (RingBuffer.updatePattern around.engine pattern).2
    rw [isSet]
    exact ⟨⟨matching, reject, limit, rfl⟩, ⟨_, _, _, _, _, rfl⟩⟩

theorem handle_sl_proto_touched (parts : List Text) : Touched session (handleSlProto session parts).session := by
  rw [handleSlProto]
  dsimp only
  split
  · split
    · exact ⟨⟨_, _, _, rfl⟩, ⟨_, _, _, _, _, rfl⟩⟩
    · exact touched_refl session
  · exact touched_refl session

theorem handle_info_touched (parts : List Text) (outcome : Outcome) (ran : handleInfo around ring session parts = some outcome) :
    outcome.session = session := by
  simp only [handleInfo] at ran
  split at ran
  · cases ran
    rfl
  split at ran
  · obtain ⟨streams, _, rfl⟩ := Option.map_eq_some_iff.mp ran
    rfl
  split at ran
  · cases ran
    rfl
  split at ran
  · cases ran
    rfl
  · cases ran
    rfl

theorem send_catalog_touched (outcome : Outcome) (ran : sendCatalog around ring session = some outcome) :
    outcome.session = session := by
  simp only [sendCatalog, Option.bind_eq_bind, Option.bind_eq_some_iff, Option.some.injEq] at ran
  obtain ⟨streams, _, rfl⟩ := ran
  rfl

theorem handle_request_touched (cmd command : Text) (parts : List Text) (outcome : Outcome)
    (ran : handleRequest around ring session cmd command parts = some outcome) : Touched session outcome.session := by
  rw [handleRequest] at ran
  by_cases hello : command = "HELLO".toList ∨ command = "ID".toList
  · rw [if_pos hello] at ran
    cases ran
    exact touched_refl session
  rw [if_neg hello] at ran
  by_cases info : command = "INFO".toList
  · rw [if_pos info] at ran
    rw [handle_info_touched around ring session parts outcome ran]
    exact touched_refl session
  rw [if_neg info] at ran
  by_cases cat : command = "CAT".toList
  · rw [if_pos cat] at ran
    rw [send_catalog_touched around ring session outcome ran]
    exact touched_refl session
  rw [if_neg cat] at ran
  by_cases accepted : command = "CAPABILITIES".toList ∨ command = "USERAGENT".toList ∨ command = "BATCH".toList
  · rw [if_pos accepted] at ran
    cases ran
    exact touched_refl session
  rw [if_neg accepted] at ran
  by_cases slproto : command = "SLPROTO".toList
  · rw [if_pos slproto] at ran
    cases ran
    exact handle_sl_proto_touched session parts
  rw [if_neg slproto] at ran
  by_cases station : command = "STATION".toList
  · rw [if_pos station] at ran
    cases ran
    exact handle_station_touched around session parts
  rw [if_neg station] at ran
  by_cases select : command = "SELECT".toList
  · rw [if_pos select] at ran
    cases ran
    exact handle_select_touched around session cmd
  rw [if_neg select] at ran
  by_cases matching : command = "MATCH".toList ∧ 1 < parts.length
  · rw [if_pos matching] at ran
    cases ran
    exact handle_pattern_touched around session (fun reader code => { reader with matching := code }) (fun _ _ => ⟨_, _, _, rfl⟩) cmd
  rw [if_neg matching] at ran
  by_cases reject : command = "REJECT".toList ∧ 1 < parts.length
  · rw [if_pos reject] at ran
    cases ran
    exact handle_pattern_touched around session (fun reader code => { reader with reject := code }) (fun _ _ => ⟨_, _, _, rfl⟩) cmd
  rw [if_neg reject] at ran
  by_cases limit : command = "LINT".toList ∧ 1 < parts.length
  · rw [if_pos limit] at ran
    cases ran
    exact handle_pattern_touched around session (fun reader code => { reader with limit := code }) (fun _ _ => ⟨_, _, _, rfl⟩) cmd
  rw [if_neg limit] at ran
  split at ran
  · cases ran
    exact touched_refl session
  · cases ran
    exact touched_refl session

theorem handle_request_place (cmd command : Text) (parts : List Text) (outcome : Outcome)
    (ran : handleRequest around ring session cmd command parts = some outcome) : SamePlace session outcome.session :=
  touched_same_place session outcome.session (handle_request_touched around ring session cmd command parts outcome ran)

end

end RingServer.SeedLink
