import RingServer.Config.ServerConfig
import RingServer.Protocols.Text
import RingServer.Ring.Initialize

set_option autoImplicit false

namespace RingServer.Program

open Config RingBuffer

abbrev Disk := Text → Option (List UInt8)

def ringfilename : Text := "packetbuf".toList

def streamfilename : Text := "streamidx".toList

def filesOf (disk : Disk) : RingFiles := ⟨disk ringfilename, disk streamfilename⟩

-- The system page size, the files that can be read, deleted and moved, and whether the archive opens.
structure Host where
  pageSize : UInt32
  reads : Text → Bool
  deletes : Text → Bool
  moves : Text → Bool
  archive : Bool

-- What Main comes to before the watchdog loop: it returns 1, an exception ends it, or it goes on.
inductive Launch where
  | exits (disk : Disk)
  | throws (disk : Disk)
  | goesOn (disk : Disk) (ringparams : RingParams) (archive : Bool)

def Launch.disk : Launch → Disk
  | .exits disk => disk
  | .throws disk => disk
  | .goesOn disk _ _ => disk

section

variable (host : Host)

-- File.Exists, File.Delete of an older backup and File.Move; false is an exception.
def moveAside (suffix name : Text) (disk : Disk) : Disk × Bool :=
  match disk name with
  | none => (disk, true)
  | some bytes =>
      if (disk (name ++ suffix)).isSome && !host.deletes (name ++ suffix) then (disk, false)
      else
        let disk := Function.update disk (name ++ suffix) none
        if host.moves name then (Function.update (Function.update disk name none) (name ++ suffix) (some bytes), true)
        else (disk, false)

def remove (name : Text) (disk : Disk) : Disk × Bool :=
  if (disk name).isSome then
    if host.deletes name then (Function.update disk name none, true) else (disk, false)
  else (disk, true)

def suffixOf (ringinit : Int) : Text := if ringinit = -1 then ".corrupt".toList else ".version".toList ++ decimalInt ringinit

-- The files after an Initialize that failed, and whether it is called again.
def autoRecover (autoRecovery : UInt8) (ringinit : Int) (disk : Disk) : Disk × Bool :=
  if ringinit = -2 ∨ autoRecovery = 0 then (disk, false)
  else if autoRecovery = 1 ∧ (ringinit = -1 ∨ ringinit > 0) then
    let packets := moveAside host (suffixOf ringinit) ringfilename disk
    if packets.2 then moveAside host (suffixOf ringinit) streamfilename packets.1 else packets
  else if autoRecovery = 2 then
    let packets := remove host ringfilename disk
    if packets.2 then remove host streamfilename packets.1 else packets
  else (disk, false)

variable (config : ServerConfig)

-- The packet buffer file is opened only where it has the length of the ring.
def opensPacketbuf (disk : Disk) : Bool :=
  !config.values .volatileRing && (disk ringfilename).any fun bytes => decide (bytes.length = (config.values .ringSize).toNat)

-- The stream index file is opened only for a ring that is not reset and has an EarliestOffset.
def opensStreamidx (disk : Disk) (ringparams : RingParams) : Bool :=
  !config.values .volatileRing && decide (0 ≤ ringparams.earliestOffset) && (disk streamfilename).isSome

-- Initialize with the exceptions of the files that it opens and cannot read.
def initializeRing (disk : Disk) : Option (Int × Option RingParams) :=
  match ringInitialize (!config.values .volatileRing) (filesOf disk) host.pageSize (config.values .ringSize) (config.values .pktSize)
      (config.values .volatileRing) with
  | none => none
  | some (ringinit, none) => some (ringinit, none)
  | some (ringinit, some ringparams) =>
      if opensPacketbuf config disk && !host.reads ringfilename || opensStreamidx config disk ringparams && !host.reads streamfilename then none
      else some (ringinit, some ringparams)

def hasConnStr : Bool := !((config.values .postgresConnStr).getD []).isEmpty

-- The archive, once the ring is there.
def openArchive (disk : Disk) : Option RingParams → Launch
  | none => .exits disk
  | some ringparams =>
      if resolveStorageMode config = .sql ∨ resolveStorageMode config = .auto then
        if hasConnStr config then
          if host.archive then .goesOn disk ringparams true
          else if resolveStorageMode config = .sql then .exits disk
          else .goesOn disk ringparams false
        else if resolveStorageMode config = .sql then .exits disk
        else .goesOn disk ringparams false
      else .goesOn disk ringparams false

def openRings (disk : Disk) : Launch :=
  if !((config.values .ringDir).getD []).isEmpty || config.values .volatileRing then
    match initializeRing host config disk with
    | none => .throws disk
    | some (ringinit, ringparams) =>
        if ringinit = 0 then openArchive host config disk ringparams
        else
          let recovered := autoRecover host (config.values .autoRecovery) ringinit disk
          if recovered.2 then
            match initializeRing host config recovered.1 with
            | none => .throws recovered.1
            | some (again, ringparams) => if again = 0 then openArchive host config recovered.1 ringparams else .exits recovered.1
          else .exits recovered.1
  else .exits disk

-- Main from the storage mode to the watchdog loop.
def launch (disk : Disk) : Launch := openRings host (forceVolatile config) disk

end

theorem load_ring_codes (files : RingFiles) (ring fresh : RingParams) (volatileFlag reset : Bool) (code : Int)
    (result : Option RingParams) (loaded : loadRing files ring volatileFlag reset fresh = some (code, result)) :
    (code = 0 ∨ code = -1) ∧ result.isSome = true := by
  have checked (next : RingParams) (tested : (if next.earliestOffset > next.maxOffset then
      some ((-1 : Int), some { next with streamIdx := next.streamIdx.destroy })
      else if next.latestOffset > next.maxOffset then some (-1, some { next with streamIdx := next.streamIdx.destroy })
      else some (0, some next)) = some (code, result)) : (code = 0 ∨ code = -1) ∧ result.isSome = true := by
    split at tested
    · cases tested
      exact ⟨.inr rfl, rfl⟩
    · split at tested
      · cases tested
        exact ⟨.inr rfl, rfl⟩
      · cases tested
        exact ⟨.inl rfl, rfl⟩
  cases reset with
  | true => exact checked fresh loaded
  | false =>
      simp only [loadRing, Bool.false_eq_true, if_false, Option.bind_eq_bind] at loaded
      split at loaded
      · split at loaded
        · exact checked ring loaded
        · obtain ⟨next, -, tested⟩ := Option.bind_eq_some_iff.mp loaded
          exact checked next tested
      · exact checked ring loaded

theorem initialize_codes (named : Bool) (files : RingFiles) (pageSize : UInt32) (ringSize : UInt64) (pktSize : UInt32)
    (volatileFlag : Bool) (code : Int) (result : Option RingParams)
    (init : ringInitialize named files pageSize ringSize pktSize volatileFlag = some (code, result)) :
    (code = 0 ∨ code = -1) ∧ result.isSome = true ∨ code = -2 ∧ result = none := by
  rw [ringInitialize] at init
  by_cases unnamed : (!volatileFlag && !named) = true
  · rw [if_pos unnamed] at init
    cases init
    exact .inr ⟨rfl, rfl⟩
  rw [if_neg unnamed, Option.bind_eq_bind, Option.bind_eq_some_iff] at init
  obtain ⟨headerSize, -, init⟩ := init
  by_cases short : ringSize < (headerSize + 2 * pktSize).toUInt64
  · rw [if_pos short] at init
    cases init
    exact .inr ⟨rfl, rfl⟩
  by_cases zero : pktSize = 0
  · rw [if_neg short, if_pos zero] at init
    cases init
  rw [if_neg short, if_neg zero] at init
  dsimp only [openRing] at init
  by_cases array : maxArrayLength < ringSize.toNat
  · rw [if_pos array] at init
    cases init
  rw [if_neg array] at init
  by_cases header : headerSize.toUInt64 ≤ ringSize
  · rw [if_pos header] at init
    exact .inl (load_ring_codes _ _ _ _ _ code result init)
  · rw [if_neg header] at init
    cases init
    exact .inl ⟨.inl rfl, rfl⟩

def Roomy (pageSize : UInt32) (ringSize : UInt64) (pktSize : UInt32) : Prop :=
  ∀ headerSize, headerSizeFor pageSize = some headerSize → headerSize.toNat + 2 * pktSize.toNat ≤ ringSize.toNat

theorem roomy_two (pageSize : UInt32) (ringSize : UInt64) (pktSize headerSize : UInt32) (maxPackets : UInt64) (maxOffset : Int64)
    (opens : Opens pageSize ringSize pktSize headerSize maxPackets maxOffset) (roomy : Roomy pageSize ringSize pktSize) :
    headerSize.toUInt64 ≤ ringSize ∧ 2 ≤ maxPackets := by
  have room := roomy headerSize opens.header
  have positive : 0 < pktSize.toNat := by
    have some := opens.some
    rw [ne_eq, ← UInt32.toNat_inj] at some
    exact Nat.pos_of_ne_zero some
  have header : headerSize.toUInt64 ≤ ringSize := by
    rw [UInt64.le_iff_toNat_le, UInt32.toNat_toUInt64]
    omega
  refine ⟨header, ?_⟩
  have two : (2 : UInt64).toNat = 2 := rfl
  rw [opens.packets, UInt64.le_iff_toNat_le, two, UInt64.toNat_div, UInt64.toNat_sub_of_le _ _ header, UInt32.toNat_toUInt64,
    UInt32.toNat_toUInt64, Nat.le_div_iff_mul_le positive]
  omega

theorem load_ring_fresh (files : RingFiles) (ring fresh : RingParams) (volatileFlag : Bool)
    (earliest : ¬ fresh.earliestOffset > fresh.maxOffset) (latest : ¬ fresh.latestOffset > fresh.maxOffset) :
    loadRing files ring volatileFlag true fresh = some (0, some fresh) := by
  simp only [loadRing, if_true, Option.bind_eq_bind, Option.bind_some]
  rw [if_neg earliest, if_neg latest]

theorem initialize_again (named : Bool) (files files' : RingFiles) (pageSize : UInt32) (ringSize : UInt64) (pktSize : UInt32)
    (volatileFlag : Bool) (old : RingParams) (roomy : Roomy pageSize ringSize pktSize) (missing : files'.packetbuf = none)
    (init : ringInitialize named files pageSize ringSize pktSize volatileFlag = some (-1, some old)) :
    ∃ g ring, ringInitialize named files' pageSize ringSize pktSize volatileFlag = some (0, some ring) ∧ Fresh g ring := by
  obtain ⟨headerSize, maxPackets, maxOffset, opens, opened⟩ := initialize_opens _ _ _ _ _ _ _ _ init
  obtain ⟨header, two⟩ := roomy_two _ _ _ _ _ _ opens roomy
  have unread : Unread files' ringSize := fun bytes isBytes => by
    rw [missing] at isBytes
    cases isBytes
  have reset := must_reset_unread files' ringSize pktSize maxPackets maxOffset headerSize volatileFlag (.inr unread)
  have array : ¬ maxArrayLength < ringSize.toNat := by
    intro long
    rw [openRing, if_pos long] at opened
    cases opened
  obtain ⟨g, -, -, -, -, last, -⟩ := opens_geometry pageSize ringSize pktSize headerSize maxPackets maxOffset opens header
    (Nat.not_lt.mp array) two
  have behind : ¬ (-1 : Int64) > maxOffset := by
    rw [gt_iff_lt, Int64.lt_iff_toInt_lt, last]
    have minus : (-1 : Int64).toInt = -1 := rfl
    rw [minus]
    omega
  have again : ringInitialize named files' pageSize ringSize pktSize volatileFlag =
      some (0, some (resetRingParams (readHeader (newRingParams files' ringSize pktSize maxPackets maxOffset headerSize volatileFlag))
        ringSize pktSize maxPackets maxOffset headerSize)) := by
    have unnamed : ¬ (!volatileFlag && !named) = true := by
      intro unnamed
      rw [ringInitialize, if_pos unnamed] at init
      cases init
    rw [ringInitialize, if_neg unnamed, opens.header, Option.bind_eq_bind, Option.bind_some, if_neg opens.fits, if_neg opens.some]
    dsimp only
    rw [← opens.packets, ← opens.offset, openRing]
    dsimp only
    rw [if_neg array, if_pos header, reset]
    exact load_ring_fresh _ _ _ _ behind behind
  obtain ⟨g, _, _, _, fresh, -⟩ := initialize_fresh named files' pageSize ringSize pktSize volatileFlag _ again (.inr unread) header two
  exact ⟨g, _, again, fresh⟩

def corrupt : Text := ".corrupt".toList

def Kept (disk disk' : Disk) (name : Text) : Prop :=
  disk' name = disk name ∨ disk' name = none ∧ disk' (name ++ corrupt) = disk name

section

variable (host : Host) (name : Text) (disk : Disk)

def Movable : Prop :=
  disk name ≠ none → host.moves name = true ∧ (disk (name ++ corrupt) ≠ none → host.deletes (name ++ corrupt) = true)

def Deletable : Prop := disk name ≠ none → host.deletes name = true

structure MovedAside (result : Disk × Bool) : Prop where
  others : ∀ other, other ≠ name → other ≠ name ++ corrupt → result.1 other = disk other
  kept : Kept disk result.1 name
  gone : result.2 = true → result.1 name = none
  done : result.2 = true ↔ Movable host name disk

theorem move_aside_spec : MovedAside host name disk (moveAside host corrupt name disk) := by
  have apart : name ≠ name ++ corrupt := by
    intro same
    have lengths := congrArg List.length same
    rw [List.length_append] at lengths
    have some : corrupt.length = 8 := rfl
    omega
  rw [moveAside]
  cases found : disk name with
  | none => exact ⟨fun _ _ _ => rfl, .inl rfl, fun _ => found, iff_of_true rfl fun present => absurd found present⟩
  | some bytes =>
      have present : disk name ≠ none := by
        rw [found]
        exact Option.some_ne_none bytes
      dsimp only
      by_cases stuck : ((disk (name ++ corrupt)).isSome && !host.deletes (name ++ corrupt)) = true
      · rw [if_pos stuck]
        rw [Bool.and_eq_true, Bool.not_eq_true', Option.isSome_iff_ne_none] at stuck
        refine ⟨fun _ _ _ => rfl, .inl rfl, fun impossible => (nomatch impossible), iff_of_false Bool.false_ne_true fun movable => ?_⟩
        exact absurd ((movable present).2 stuck.1) (Bool.eq_false_iff.mp stuck.2)
      · rw [if_neg stuck]
        have free : disk (name ++ corrupt) ≠ none → host.deletes (name ++ corrupt) = true := by
          intro older
          by_contra refused
          exact stuck (by rw [Option.isSome_iff_ne_none.mpr older, Bool.eq_false_of_not_eq_true refused]; rfl)
        by_cases moves : host.moves name = true
        · rw [if_pos moves]
          refine ⟨fun other notName notBackup => ?_, .inr ⟨?_, ?_⟩, fun _ => ?_, iff_of_true rfl fun _ => ⟨moves, free⟩⟩
          · show Function.update _ _ _ other = _
            rw [Function.update_of_ne notBackup, Function.update_of_ne notName, Function.update_of_ne notBackup]
          · show Function.update _ _ _ name = _
            rw [Function.update_of_ne apart, Function.update_self]
          · show Function.update _ _ _ (name ++ corrupt) = _
            rw [Function.update_self, found]
          · show Function.update _ _ _ name = _
            rw [Function.update_of_ne apart, Function.update_self]
        · rw [if_neg moves]
          refine ⟨fun other _ notBackup => Function.update_of_ne notBackup _ _, .inl (Function.update_of_ne apart _ _),
            fun impossible => (nomatch impossible), iff_of_false Bool.false_ne_true fun movable => moves (movable present).1⟩

structure Deleted (result : Disk × Bool) : Prop where
  others : ∀ other, other ≠ name → result.1 other = disk other
  gone : result.2 = true → result.1 name = none
  done : result.2 = true ↔ Deletable host name disk

theorem remove_spec : Deleted host name disk (remove host name disk) := by
  rw [remove]
  by_cases present : (disk name).isSome = true
  · rw [if_pos present]
    have some := Option.isSome_iff_ne_none.mp present
    by_cases deletes : host.deletes name = true
    · rw [if_pos deletes]
      exact ⟨fun other notName => Function.update_of_ne notName _ _, fun _ => Function.update_self _ _ _, iff_of_true rfl fun _ => deletes⟩
    · rw [if_neg deletes]
      exact ⟨fun _ _ => rfl, fun impossible => (nomatch impossible),
        iff_of_false Bool.false_ne_true fun deletable => deletes (deletable some)⟩
  · rw [if_neg present]
    have missing := Option.not_isSome_iff_eq_none.mp present
    exact ⟨fun _ _ => rfl, fun _ => missing, iff_of_true rfl fun some => absurd missing some⟩

end

def Recovers (host : Host) (autoRecovery : UInt8) (disk : Disk) : Prop :=
  autoRecovery = 1 ∧ Movable host ringfilename disk ∧ Movable host streamfilename disk ∨
    autoRecovery = 2 ∧ Deletable host ringfilename disk ∧ Deletable host streamfilename disk

structure Spares (autoRecovery : UInt8) (disk disk' : Disk) : Prop where
  others : ∀ name, name ≠ ringfilename → name ≠ streamfilename → name ≠ ringfilename ++ corrupt → name ≠ streamfilename ++ corrupt →
    disk' name = disk name
  kept : autoRecovery ≠ 2 → Kept disk disk' ringfilename ∧ Kept disk disk' streamfilename

theorem spares_same (autoRecovery : UInt8) (disk : Disk) : Spares autoRecovery disk disk :=
  ⟨fun _ _ _ _ _ => rfl, fun _ => ⟨.inl rfl, .inl rfl⟩⟩

structure Recovery (host : Host) (autoRecovery : UInt8) (disk : Disk) (result : Disk × Bool) : Prop where
  spares : Spares autoRecovery disk result.1
  gone : result.2 = true → result.1 ringfilename = none ∧ result.1 streamfilename = none
  done : result.2 = true ↔ Recovers host autoRecovery disk

theorem move_both_aside (host : Host) (disk : Disk) : Recovery host 1 disk (autoRecover host 1 (-1) disk) := by
  have only : Recovers host 1 disk ↔ Movable host ringfilename disk ∧ Movable host streamfilename disk :=
    ⟨fun recovers => recovers.elim (·.2) fun other => absurd other.1 (by decide), fun movable => .inl ⟨rfl, movable⟩⟩
  have packets := move_aside_spec host ringfilename disk
  have isResult : autoRecover host 1 (-1) disk = if (moveAside host corrupt ringfilename disk).2 then
      moveAside host corrupt streamfilename (moveAside host corrupt ringfilename disk).1 else moveAside host corrupt ringfilename disk := rfl
  rw [isResult]
  generalize moveAside host corrupt ringfilename disk = first at packets
  have sameStream : first.1 streamfilename = disk streamfilename := packets.others _ (by decide) (by decide)
  have sameBackup : first.1 (streamfilename ++ corrupt) = disk (streamfilename ++ corrupt) := packets.others _ (by decide) (by decide)
  by_cases moved : first.2 = true
  · rw [if_pos moved]
    have streams := move_aside_spec host streamfilename first.1
    generalize moveAside host corrupt streamfilename first.1 = second at streams
    have sameRing : second.1 ringfilename = first.1 ringfilename := streams.others _ (by decide) (by decide)
    have sameRingBackup : second.1 (ringfilename ++ corrupt) = first.1 (ringfilename ++ corrupt) :=
      streams.others _ (by decide) (by decide)
    refine ⟨⟨fun other notRing notStream notRings notStreams => ?_, fun _ => ⟨?_, ?_⟩⟩, fun done => ⟨?_, streams.gone done⟩, ?_⟩
    · rw [streams.others other notStream notStreams, packets.others other notRing notRings]
    · rw [Kept, sameRing, sameRingBackup]
      exact packets.kept
    · have kept := streams.kept
      rw [Kept, sameStream] at kept
      exact kept
    · rw [sameRing]
      exact packets.gone moved
    · rw [streams.done, only, Movable, sameStream, sameBackup]
      exact ⟨fun streams => ⟨packets.done.mp moved, streams⟩, fun both => both.2⟩
  · rw [if_neg moved]
    refine ⟨⟨fun other notRing _ notRings _ => packets.others other notRing notRings, fun _ => ⟨packets.kept, .inl sameStream⟩⟩,
      fun done => absurd done moved, iff_of_false moved fun recovers => moved (packets.done.mpr (only.mp recovers).1)⟩

theorem remove_both (host : Host) (disk : Disk) : Recovery host 2 disk (autoRecover host 2 (-1) disk) := by
  have only : Recovers host 2 disk ↔ Deletable host ringfilename disk ∧ Deletable host streamfilename disk :=
    ⟨fun recovers => recovers.elim (fun other => absurd other.1 (by decide)) (·.2), fun deletable => .inr ⟨rfl, deletable⟩⟩
  have packets := remove_spec host ringfilename disk
  have isResult : autoRecover host 2 (-1) disk = if (remove host ringfilename disk).2 then
      remove host streamfilename (remove host ringfilename disk).1 else remove host ringfilename disk := rfl
  rw [isResult]
  generalize remove host ringfilename disk = first at packets
  have sameStream : first.1 streamfilename = disk streamfilename := packets.others _ (by decide)
  by_cases removed : first.2 = true
  · rw [if_pos removed]
    have streams := remove_spec host streamfilename first.1
    generalize remove host streamfilename first.1 = second at streams
    have sameRing : second.1 ringfilename = first.1 ringfilename := streams.others _ (by decide)
    refine ⟨⟨fun other notRing notStream _ _ => ?_, fun kept => absurd rfl kept⟩, fun done => ⟨?_, streams.gone done⟩, ?_⟩
    · rw [streams.others other notStream, packets.others other notRing]
    · rw [sameRing]
      exact packets.gone removed
    · rw [streams.done, only, Deletable, sameStream]
      exact ⟨fun streams => ⟨packets.done.mp removed, streams⟩, fun both => both.2⟩
  · rw [if_neg removed]
    refine ⟨⟨fun other notRing _ _ _ => packets.others other notRing, fun kept => absurd rfl kept⟩,
      fun done => absurd done removed, iff_of_false removed fun recovers => removed (packets.done.mpr (only.mp recovers).1)⟩

theorem auto_recover_spec (host : Host) (autoRecovery : UInt8) (disk : Disk) :
    Recovery host autoRecovery disk (autoRecover host autoRecovery (-1) disk) := by
  by_cases one : autoRecovery = 1
  · subst one
    exact move_both_aside host disk
  by_cases two : autoRecovery = 2
  · subst two
    exact remove_both host disk
  have refused : autoRecover host autoRecovery (-1) disk = (disk, false) := by
    rw [autoRecover]
    by_cases off : autoRecovery = 0
    · rw [if_pos (.inr off)]
    · rw [if_neg (fun either => either.elim (fun same => absurd same (by decide)) off), if_neg (fun both => one both.1), if_neg two]
  rw [refused]
  refine ⟨spares_same _ disk, fun impossible => (nomatch impossible), iff_of_false Bool.false_ne_true fun recovers => ?_⟩
  exact recovers.elim (fun first => one first.1) fun second => two second.1

section

variable (host : Host) (config : ServerConfig)

def ArchiveReady : Prop := resolveStorageMode config = .sql → hasConnStr config = true ∧ host.archive = true

theorem open_archive_ready (disk : Disk) (ringparams : RingParams) (ready : ArchiveReady host config) :
    openArchive host config disk (some ringparams) = .goesOn disk ringparams (decide (resolveStorageMode config = .sql)) := by
  have resolved : resolveStorageMode config ≠ .auto := by
    rw [resolveStorageMode]
    split
    · exact fun same => nomatch same
    · exact fun same => nomatch same
    · split
      · exact fun same => nomatch same
      · exact fun same => nomatch same
  rw [openArchive]
  by_cases sql : resolveStorageMode config = .sql
  · rw [if_pos (.inl sql), if_pos (ready sql).1, if_pos (ready sql).2, decide_eq_true sql]
  · rw [if_neg (fun either => either.elim sql resolved), decide_eq_false sql]

theorem open_archive_fails (disk : Disk) (ringparams : RingParams) (fails : ¬ ArchiveReady host config) :
    openArchive host config disk (some ringparams) = .exits disk := by
  rw [ArchiveReady, not_forall] at fails
  obtain ⟨sql, fails⟩ := fails
  rw [openArchive, if_pos (.inl sql)]
  by_cases conn : hasConnStr config = true
  · have shut : ¬ host.archive = true := fun opens => fails ⟨conn, opens⟩
    rw [if_pos conn, if_neg shut, if_pos sql]
  · rw [if_neg conn, if_pos sql]

theorem open_archive_disk (disk : Disk) (ringparams : RingParams) : (openArchive host config disk (some ringparams)).disk = disk := by
  by_cases ready : ArchiveReady host config
  · rw [open_archive_ready host config disk ringparams ready]
    rfl
  · rw [open_archive_fails host config disk ringparams ready]
    rfl

theorem initialize_ring_result (disk : Disk) (result : Int × Option RingParams) (init : initializeRing host config disk = some result) :
    ringInitialize (!config.values .volatileRing) (filesOf disk) host.pageSize (config.values .ringSize) (config.values .pktSize)
      (config.values .volatileRing) = some result := by
  rw [initializeRing] at init
  split at init
  · cases init
  · rename_i isResult
    rw [isResult]
    exact init
  · rename_i isResult
    split at init
    · cases init
    · rw [isResult]
      exact init

theorem initialize_ring_missing (disk : Disk) (ringinit : Int) (ringparams : RingParams) (ringfile : disk ringfilename = none)
    (streamfile : disk streamfilename = none)
    (init : ringInitialize (!config.values .volatileRing) (filesOf disk) host.pageSize (config.values .ringSize)
      (config.values .pktSize) (config.values .volatileRing) = some (ringinit, some ringparams)) :
    initializeRing host config disk = some (ringinit, some ringparams) := by
  have packets : opensPacketbuf config disk = false := by
    rw [opensPacketbuf, ringfile, Option.any_none, Bool.and_false]
  have streams : opensStreamidx config disk ringparams = false := by
    rw [opensStreamidx, streamfile, Option.isSome_none, Bool.and_false]
  rw [initializeRing, init]
  dsimp only
  rw [packets, streams, Bool.false_and, Bool.false_and, Bool.or_false, if_neg Bool.false_ne_true]

theorem open_rings_spares (disk : Disk) : Spares (config.values .autoRecovery) disk (openRings host config disk).disk := by
  have same := spares_same (config.values .autoRecovery) disk
  rw [openRings]
  split
  · cases init : initializeRing host config disk with
    | none => exact same
    | some result =>
        obtain ⟨ringinit, ringparams⟩ := result
        have codes := initialize_codes _ _ _ _ _ _ ringinit ringparams (initialize_ring_result host config disk _ init)
        dsimp only
        by_cases zero : ringinit = 0
        · rw [if_pos zero]
          rcases codes with ⟨_, isSome⟩ | ⟨fatal, _⟩
          · obtain ⟨ring, rfl⟩ := Option.isSome_iff_exists.mp isSome
            rw [open_archive_disk]
            exact same
          · exact absurd (zero.symm.trans fatal) (by decide)
        · rw [if_neg zero]
          rcases codes with ⟨code, _⟩ | ⟨fatal, _⟩
          · obtain rfl := code.resolve_left zero
            have recovery := (auto_recover_spec host (config.values .autoRecovery) disk).spares
            generalize autoRecover host (config.values .autoRecovery) (-1) disk = recovered at recovery
            split
            · cases again : initializeRing host config recovered.1 with
              | none => exact recovery
              | some result =>
                  obtain ⟨code, next⟩ := result
                  dsimp only
                  split
                  · cases next with
                    | none => exact recovery
                    | some ring =>
                        rw [open_archive_disk]
                        exact recovery
                  · exact recovery
            · exact recovery
          · have refused : autoRecover host (config.values .autoRecovery) ringinit disk = (disk, false) := by
              rw [autoRecover, if_pos (.inl fatal)]
            rw [refused, if_neg Bool.false_ne_true]
            exact same
  · exact same

structure Launches (disk : Disk) : Prop where
  place : ((config.values .ringDir).getD []).isEmpty = false ∨ config.values .volatileRing = true
  archive : ArchiveReady host config
  ring : ∃ ringinit ringparams, initializeRing host config disk = some (ringinit, ringparams) ∧
    (ringinit = 0 ∨ ringinit = -1 ∧ Recovers host (config.values .autoRecovery) disk)

inductive LaunchedWith (disk : Disk) : Disk → RingParams → Prop
  | found (ring : RingParams) (init : initializeRing host config disk = some (0, some ring)) : LaunchedWith disk disk ring
  | recovered (old : Option RingParams) (init : initializeRing host config disk = some (-1, old)) (disk' : Disk)
      (spares : Spares (config.values .autoRecovery) disk disk') (ringfile : disk' ringfilename = none)
      (streamfile : disk' streamfilename = none) (ring : RingParams) (g : Geometry) (fresh : Fresh g ring) : LaunchedWith disk disk' ring

theorem open_rings_launches (disk : Disk)
    (roomy : Roomy host.pageSize (config.values .ringSize) (config.values .pktSize)) (launches : Launches host config disk) :
    ∃ disk' ringparams, openRings host config disk = .goesOn disk' ringparams (decide (resolveStorageMode config = .sql)) ∧
      LaunchedWith host config disk disk' ringparams := by
  obtain ⟨ringinit, ringparams, init, goes⟩ := launches.ring
  have place : (!((config.values .ringDir).getD []).isEmpty || config.values .volatileRing) = true := by
    rcases launches.place with named | isVolatile
    · rw [named]
      rfl
    · rw [isVolatile, Bool.or_true]
  rw [openRings, if_pos place, init]
  dsimp only
  have read := initialize_ring_result host config disk _ init
  have codes := initialize_codes _ _ _ _ _ _ ringinit ringparams read
  rcases goes with rfl | ⟨rfl, recovers⟩
  · have isSome : ringparams.isSome = true := codes.elim (·.2) fun fatal => absurd fatal.1 (by decide)
    obtain ⟨ring, rfl⟩ := Option.isSome_iff_exists.mp isSome
    rw [if_pos rfl, open_archive_ready host config disk ring launches.archive]
    exact ⟨disk, ring, rfl, .found ring init⟩
  · have isSome : ringparams.isSome = true := codes.elim (·.2) fun fatal => absurd fatal.1 (by decide)
    obtain ⟨old, rfl⟩ := Option.isSome_iff_exists.mp isSome
    have recovery := auto_recover_spec host (config.values .autoRecovery) disk
    generalize autoRecover host (config.values .autoRecovery) (-1) disk = recovered at recovery
    have done := recovery.done.mpr recovers
    obtain ⟨ringfile, streamfile⟩ := recovery.gone done
    obtain ⟨g, ring, again, fresh⟩ := initialize_again _ _ (filesOf recovered.1) _ _ _ _ old roomy ringfile read
    have ran := initialize_ring_missing host config recovered.1 0 ring ringfile streamfile again
    rw [if_neg (by decide), if_pos done, ran]
    dsimp only
    rw [if_pos rfl, open_archive_ready host config recovered.1 ring launches.archive]
    exact ⟨recovered.1, ring, rfl, .recovered _ init _ recovery.spares ringfile streamfile ring g fresh⟩

theorem open_rings_goes_on (disk disk' : Disk) (ringparams : RingParams) (archive : Bool)
    (goes : openRings host config disk = .goesOn disk' ringparams archive) : Launches host config disk := by
  have ready (at' : Disk) (ring : Option RingParams) (opened : openArchive host config at' ring = .goesOn disk' ringparams archive) :
      ArchiveReady host config := by
    cases ring with
    | none => cases opened
    | some ring =>
        by_contra fails
        rw [open_archive_fails host config at' ring fails] at opened
        cases opened
  rw [openRings] at goes
  split at goes
  · rename_i place
    have place' : ((config.values .ringDir).getD []).isEmpty = false ∨ config.values .volatileRing = true := by
      rw [Bool.or_eq_true, Bool.not_eq_true'] at place
      exact place
    cases init : initializeRing host config disk with
    | none =>
        rw [init] at goes
        cases goes
    | some result =>
        obtain ⟨ringinit, ring⟩ := result
        rw [init] at goes
        dsimp only at goes
        by_cases zero : ringinit = 0
        · rw [if_pos zero] at goes
          exact ⟨place', ready _ _ goes, ringinit, ring, init, .inl zero⟩
        · rw [if_neg zero] at goes
          have corrupted : ringinit = -1 := by
            rcases initialize_codes _ _ _ _ _ _ ringinit ring (initialize_ring_result host config disk _ init) with ⟨code, _⟩ | ⟨fatal, _⟩
            · exact code.resolve_left zero
            · have refused : autoRecover host (config.values .autoRecovery) ringinit disk = (disk, false) := by
                rw [autoRecover, if_pos (.inl fatal)]
              rw [refused, if_neg Bool.false_ne_true] at goes
              cases goes
          subst corrupted
          have recovery := auto_recover_spec host (config.values .autoRecovery) disk
          generalize autoRecover host (config.values .autoRecovery) (-1) disk = recovered at recovery goes
          by_cases done : recovered.2 = true
          · rw [if_pos done] at goes
            cases again : initializeRing host config recovered.1 with
            | none =>
                rw [again] at goes
                cases goes
            | some result =>
                rw [again] at goes
                dsimp only at goes
                split at goes
                · exact ⟨place', ready _ _ goes, -1, ring, init, .inr ⟨rfl, recovery.done.mp done⟩⟩
                · cases goes
          · rw [if_neg done] at goes
            cases goes
  · cases goes

theorem force_volatile_value (p : Parameter) (other : p ≠ .volatileRing) : (forceVolatile config).values p = config.values p := by
  rw [forceVolatile]
  split
  · exact Function.update_of_ne other true config.values
  · rfl

theorem force_volatile_mode : resolveStorageMode (forceVolatile config) = resolveStorageMode config := by
  rw [forceVolatile]
  split
  · rfl
  · rfl

-- Whatever fails, and whatever the files hold.
theorem launch_spares (disk : Disk) : Spares (config.values .autoRecovery) disk (launch host config disk).disk := by
  have spares := open_rings_spares host (forceVolatile config) disk
  rw [force_volatile_value config .autoRecovery (by decide)] at spares
  exact spares

end

def ringDirOnly : ServerConfig := { initialConfig with values := Function.update initialValues .ringDir (some "ring".toList) }

def plainHost : Host := ⟨4096, fun _ => true, fun _ => true, fun _ => true, false⟩

-- A packet buffer of zeros with room for two packets.
def twoPackets : ServerConfig := { ringDirOnly with values := Function.update ringDirOnly.values .ringSize (5344 : UInt64) }

def zeroed : Disk := Function.update (fun _ => none) ringfilename (some (List.replicate 5344 0))

def unreadable : Host := { plainHost with reads := fun _ => false }

theorem two_packets_roomy : Roomy 4096 5344 624 := by
  intro headerSize known
  have page : headerSizeFor 4096 = some 4096 := by decide +kernel
  rw [page] at known
  cases known
  decide

theorem zeroed_launches : Launches plainHost (forceVolatile twoPackets) zeroed := by
  have code : (initializeRing plainHost (forceVolatile twoPackets) zeroed).map (·.1) = some 0 := by decide +kernel
  obtain ⟨result, init, zero⟩ := Option.map_eq_some_iff.mp code
  exact ⟨.inl rfl, fun sql => absurd sql (by decide), result.1, result.2, init, .inl zero⟩

theorem zeroed_unread : ¬ Launches unreadable (forceVolatile twoPackets) zeroed := by
  have code : (initializeRing unreadable (forceVolatile twoPackets) zeroed).map (·.1) = none := by decide +kernel
  rintro ⟨-, -, ringinit, ringparams, init, -⟩
  rw [init] at code
  cases code

end RingServer.Program
