import RingServer.Config.ServerConfig

set_option autoImplicit false

namespace RingServer.Config

open Library

def Assignment.setting : Assignment → Option ((p : Parameter) × p.Value)
  | .set setting => some setting
  | _ => none

def Assignment.entry (keyword : IPList) : Assignment → Option IPNet
  | .addIPNet other net => if other = keyword then some net else none
  | _ => none

-- The settings of a file in their order, and its entries for a list, the last one first.
def settingsOf (file : List Assignment) : List ((p : Parameter) × p.Value) := file.filterMap Assignment.setting

def entriesOf (keyword : IPList) (file : List Assignment) : List IPNet := (file.filterMap (Assignment.entry keyword)).reverse

section

variable (platform : Platform)

def lineThreads (binds : AddressFamily → Bool) : Assignment → List SThread
  | .listen lpp => addListenThreads platform binds lpp
  | .mSeedScan configstr => [.mSeedScan configstr]
  | _ => []

def addedThreads (binds : Nat → AddressFamily → Bool) (linenum : Nat) : List Assignment → List SThread
  | [] => []
  | line :: rest => addedThreads binds (linenum + 1) rest ++ lineThreads platform (binds linenum) line

def Passes (dynamiconly : Bool) : Assignment → Prop
  | .throws => False
  | .unknown => dynamiconly = true
  | .listen lpp => (familiesOf lpp.options).all platform.supports = true
  | _ => True

def withFile (binds : Nat → AddressFamily → Bool) (linenum : Nat) (config : ServerConfig) (file : List Assignment) : ServerConfig where
  values := settle config.values (settingsOf file)
  ips := fun keyword => entriesOf keyword file ++ config.ips keyword
  sthreads := addedThreads platform binds linenum file ++ config.sthreads

theorem set_parameter_spec (binds : Nat → AddressFamily → Bool) (linenum : Nat) (dynamiconly : Bool) (config : ServerConfig)
    (line : Assignment) : (setParameter platform (binds linenum) dynamiconly config line).2 < 0 ↔ ¬ Passes platform dynamiconly line := by
  cases line with
  | listen lpp =>
      rw [setParameter, Passes]
      cases (familiesOf lpp.options).all platform.supports with
      | true => exact iff_of_false (show ¬ (1 : Int) < 0 by decide) (not_not_intro rfl)
      | false => exact iff_of_true (show (-1 : Int) < 0 by decide) Bool.false_ne_true
  | unknown =>
      rw [setParameter, Passes]
      cases dynamiconly with
      | true => exact iff_of_false (show ¬ (0 : Int) < 0 by decide) (not_not_intro rfl)
      | false => exact iff_of_true (show (-1 : Int) < 0 by decide) Bool.false_ne_true
  | throws => exact iff_of_true (show (-1 : Int) < 0 by decide) not_false
  | nothing => exact iff_of_false (show ¬ (1 : Int) < 0 by decide) (not_not_intro trivial)
  | set setting => exact iff_of_false (show ¬ (1 : Int) < 0 by decide) (not_not_intro trivial)
  | addIPNet keyword net => exact iff_of_false (show ¬ (1 : Int) < 0 by decide) (not_not_intro trivial)
  | mSeedScan configstr => exact iff_of_false (show ¬ (1 : Int) < 0 by decide) (not_not_intro trivial)

theorem set_parameter_line (binds : AddressFamily → Bool) (dynamiconly : Bool) (config : ServerConfig) (line : Assignment) :
    (setParameter platform binds dynamiconly config line).1 =
      { values := settle config.values line.setting.toList
        ips := fun keyword => (line.entry keyword).toList ++ config.ips keyword
        sthreads := lineThreads platform binds line ++ config.sthreads } := by
  cases line with
  | addIPNet keyword net =>
      have ips : (addIPNet config keyword net).ips =
          fun other => (Assignment.entry other (.addIPNet keyword net)).toList ++ config.ips other := by
        funext other
        rw [addIPNet, Assignment.entry]
        by_cases same : keyword = other
        · subst same
          simp
        · have reversed : ¬ other = keyword := fun equal => same equal.symm
          simp [same, reversed]
      rw [← ips]
      rfl
  | _ => rfl

theorem settings_cons (line : Assignment) (rest : List Assignment) :
    settingsOf (line :: rest) = line.setting.toList ++ settingsOf rest := by
  rw [settingsOf, List.filterMap_cons]
  cases line.setting with
  | none => rfl
  | some setting => rfl

theorem entries_cons (keyword : IPList) (line : Assignment) (rest : List Assignment) :
    entriesOf keyword (line :: rest) = entriesOf keyword rest ++ (line.entry keyword).toList := by
  rw [entriesOf, List.filterMap_cons]
  cases line.entry keyword with
  | none => exact (List.append_nil _).symm
  | some net => exact List.reverse_cons

theorem with_file_cons (binds : Nat → AddressFamily → Bool) (linenum : Nat) (dynamiconly : Bool) (config : ServerConfig)
    (line : Assignment) (rest : List Assignment) :
    withFile platform binds (linenum + 1) (setParameter platform (binds linenum) dynamiconly config line).1 rest =
      withFile platform binds linenum config (line :: rest) := by
  rw [set_parameter_line]
  simp only [withFile, settings_cons, settle_append, entries_cons, addedThreads, List.append_assoc]

theorem read_lines_spec (binds : Nat → AddressFamily → Bool) (dynamiconly : Bool) (file : List Assignment) (linenum : Nat)
    (config : ServerConfig) :
    ((∀ line ∈ file, Passes platform dynamiconly line) →
      readLines platform binds dynamiconly config linenum file = (withFile platform binds linenum config file, 0)) ∧
    (¬ (readLines platform binds dynamiconly config linenum file).2 < 0 → ∀ line ∈ file, Passes platform dynamiconly line) := by
  induction file generalizing linenum config with
  | nil => exact ⟨fun _ => rfl, fun _ line member => absurd member List.not_mem_nil⟩
  | cons line rest ih =>
      have code := set_parameter_spec platform binds linenum dynamiconly config line
      have tail := ih (linenum + 1) (setParameter platform (binds linenum) dynamiconly config line).1
      rw [readLines]
      dsimp only
      by_cases fails : (setParameter platform (binds linenum) dynamiconly config line).2 < 0
      · rw [if_pos fails]
        exact ⟨fun all => absurd (all line List.mem_cons_self) (code.mp fails), fun good => absurd (show (-1 : Int) < 0 by decide) good⟩
      · rw [if_neg fails]
        have passes : Passes platform dynamiconly line := not_not.mp fun not => fails (code.mpr not)
        refine ⟨fun all => ?_, fun good => List.forall_mem_cons.mpr ⟨passes, tail.2 good⟩⟩
        rw [tail.1 fun other member => all other (List.mem_cons_of_mem _ member), with_file_cons]

theorem passes_reload (line : Assignment) (passes : Passes platform false line) : Passes platform true line := by
  cases line with
  | unknown => rfl
  | throws => exact passes
  | listen lpp => exact passes
  | _ => trivial

def loopback : List IPNet :=
  (parseIPNet platform.tryParseAddress "::1/128".toList none).toList ++
    (parseIPNet platform.tryParseAddress "127.0.0.1/8".toList none).toList

def defaultsOf : IPList → List IPNet
  | .writeIps | .trustedIps => loopback platform
  | _ => []

theorem add_network_spec (keyword : IPList) (network : Text) (config : ServerConfig) :
    addNetwork platform keyword network config = { config with
      ips := Function.update config.ips keyword
        ((parseIPNet platform.tryParseAddress network none).toList ++ config.ips keyword) } := by
  rw [addNetwork]
  cases parseIPNet platform.tryParseAddress network none with
  | none =>
      have same : Function.update config.ips keyword (config.ips keyword) = config.ips := Function.update_eq_self _ _
      show config = { config with ips := Function.update config.ips keyword (config.ips keyword) }
      rw [same]
  | some net => rfl

theorem add_loopback_spec (keyword : IPList) (config : ServerConfig) :
    addLoopback platform keyword config = { config with
      ips := Function.update config.ips keyword (if config.ips keyword = [] then loopback platform else config.ips keyword) } := by
  rw [addLoopback]
  by_cases empty : config.ips keyword = []
  · rw [if_pos empty, if_pos empty, add_network_spec, add_network_spec]
    simp only [Function.update_self, Function.update_idem, empty, List.append_nil, loopback]
  · rw [if_neg empty, if_neg empty, Function.update_eq_self]

theorem add_defaults_spec (config : ServerConfig) :
    addDefaults platform config = { config with
      ips := fun keyword => if config.ips keyword = [] then defaultsOf platform keyword else config.ips keyword } := by
  have ips : Function.update (Function.update config.ips .writeIps
    (if config.ips .writeIps = [] then loopback platform else config.ips .writeIps))
      .trustedIps (if config.ips .trustedIps = [] then loopback platform else config.ips .trustedIps) =
      fun keyword => if config.ips keyword = [] then defaultsOf platform keyword else config.ips keyword := by
    funext keyword
    cases keyword with
    | writeIps => rfl
    | trustedIps => rfl
    | limitIps =>
        show config.ips .limitIps = if config.ips .limitIps = [] then [] else config.ips .limitIps
        split
        · assumption
        · rfl
    | matchIps =>
        show config.ips .matchIps = if config.ips .matchIps = [] then [] else config.ips .matchIps
        split
        · assumption
        · rfl
    | rejectIps =>
        show config.ips .rejectIps = if config.ips .rejectIps = [] then [] else config.ips .rejectIps
        split
        · assumption
        · rfl
  rw [addDefaults, add_loopback_spec platform .writeIps config, add_loopback_spec]
  rw [← ips]
  rfl

def startRest (detected : Bool) (file : List Assignment) (keyword : IPList) : List IPNet :=
  if detected = true ∨ entriesOf keyword file = [] then defaultsOf platform keyword else []

structure Started (detected : Bool) (binds : Nat → AddressFamily → Bool) (config : ServerConfig) (file : List Assignment)
    (started : ServerConfig) : Prop where
  passes : ∀ line ∈ file, Passes platform false line
  values : ∃ values, values = settle config.values (settingsOf file) ∧
    started.values = if resolveStorageMode started = .sql then Function.update values .volatileRing true else values
  ips : ∀ keyword, started.ips keyword = entriesOf keyword file ++ startRest platform detected file keyword

theorem force_volatile_spec (config : ServerConfig) :
    (forceVolatile config).ips = config.ips ∧ resolveStorageMode (forceVolatile config) = resolveStorageMode config ∧
      (forceVolatile config).values =
        if resolveStorageMode config = .sql then Function.update config.values .volatileRing true else config.values := by
  rw [forceVolatile]
  by_cases sql : resolveStorageMode config = .sql
  · rw [if_pos sql, if_pos sql]
    exact ⟨rfl, rfl, rfl⟩
  · rw [if_neg sql, if_neg sql]
    exact ⟨rfl, rfl, rfl⟩

theorem start_server_spec (binds : Nat → AddressFamily → Bool) (detected : Bool) (config started : ServerConfig) (lines : List Text)
    (noLists : config.ips = fun _ => []) (ran : startServer platform binds detected config lines = some started) :
    Started platform detected binds config (parameterLines platform lines) started := by
  have noEntry : ∀ keyword, config.ips keyword = [] := fun keyword => congrFun noLists keyword
  rw [startServer] at ran
  cases detected with
  | true =>
      rw [if_pos rfl, readConfigFile] at ran
      obtain ⟨whole, passes⟩ := read_lines_spec platform binds false (parameterLines platform lines) 0 (addDefaults platform config)
      dsimp only at ran
      split at ran
      · cases ran
      · rename_i good
        have all := passes good
        rw [whole all] at ran
        obtain rfl := Option.some.inj ran
        obtain ⟨ips, mode, values⟩ := force_volatile_spec (withFile platform binds 0 (addDefaults platform config)
          (parameterLines platform lines))
        refine ⟨all, ⟨_, rfl, ?_⟩, fun keyword => ?_⟩
        · rw [values, mode, add_defaults_spec]
          rfl
        · rw [ips, add_defaults_spec, startRest, if_pos (Or.inl rfl)]
          simp only [withFile, noEntry, if_true]
  | false =>
      rw [if_neg Bool.false_ne_true, readConfigFile] at ran
      obtain ⟨whole, passes⟩ := read_lines_spec platform binds false (parameterLines platform lines) 0 config
      dsimp only at ran
      split at ran
      · cases ran
      · rename_i good
        have all := passes good
        rw [whole all] at ran
        obtain rfl := Option.some.inj ran
        obtain ⟨ips, mode, values⟩ := force_volatile_spec (addDefaults platform
          (withFile platform binds 0 config (parameterLines platform lines)))
        refine ⟨all, ⟨_, rfl, ?_⟩, fun keyword => ?_⟩
        · rw [values, mode, add_defaults_spec]
          rfl
        · rw [ips, add_defaults_spec, startRest]
          simp only [withFile, noEntry, List.append_nil, Bool.false_eq_true, false_or]
          by_cases empty : entriesOf keyword (parameterLines platform lines) = []
          · rw [if_pos empty, if_pos empty, empty, List.nil_append]
          · rw [if_neg empty, if_neg empty, List.append_nil]

structure SameEffect (config other : ServerConfig) : Prop where
  values : config.values = other.values
  searches : ∀ keyword addr, findMatchingIP (config.ips keyword) addr = findMatchingIP (other.ips keyword) addr
  present : ∀ keyword, config.ips keyword = [] ↔ other.ips keyword = []
  sthreads : config.sthreads = other.sthreads

structure ReloadsWell (bindsA bindsB : Nat → AddressFamily → Bool) (first second : ServerConfig) (linesA linesB : List Text) : Prop where
  again : SameEffect (reload platform bindsA first linesA) first
  lists : (reload platform bindsB first linesB).ips = second.ips
  fixed : ∀ p, Parameter.fixed p = true → (reload platform bindsB first linesB).values p = first.values p
  sthreads : (reload platform bindsB first linesB).sthreads = first.sthreads

-- The first file leaves nothing in a list that the second one would not have.
def Revokes (detected : Bool) (fileA fileB : List Assignment) (keyword : IPList) : Prop :=
  (entriesOf keyword fileA = [] ∧ (detected = true ∨ entriesOf keyword fileB = [] ∨ defaultsOf platform keyword = [])) ∨
    (detected = false ∧ entriesOf keyword fileB = [] ∧ entriesOf keyword fileA = defaultsOf platform keyword)

structure Reloadable (bindsA bindsB : Nat → AddressFamily → Bool) (detected : Bool) (first : ServerConfig)
    (fileA fileB : List Assignment) : Prop where
  bound : addedThreads platform bindsA 0 fileA = [] ∧ addedThreads platform bindsB 0 fileB = []
  volatile : resolveStorageMode first = .sql → lastSetting .volatileRing (settingsOf fileA) ≠ some false
  revokes : ∀ keyword, Revokes platform detected fileA fileB keyword
  fixed : ∀ p value, Parameter.fixed p = true → lastSetting p (settingsOf fileB) = some value → first.values p = value

theorem revokes_iff (detected : Bool) (fileA fileB : List Assignment) (keyword : IPList) :
    entriesOf keyword fileA ++ startRest platform detected fileA keyword = startRest platform detected fileB keyword ↔
      Revokes platform detected fileA fileB keyword := by
  rw [Revokes, startRest, startRest]
  cases detected with
  | true =>
      rw [if_pos (Or.inl rfl), if_pos (Or.inl rfl), List.append_left_eq_self]
      simp
  | false =>
      by_cases noneA : entriesOf keyword fileA = []
      · rw [if_pos (Or.inr noneA), noneA, List.nil_append]
        by_cases noneB : entriesOf keyword fileB = []
        · rw [if_pos (Or.inr noneB), noneB]
          simp
        · rw [if_neg (by simp [noneB])]
          simp [noneB]
      · rw [if_neg (by simp [noneA]), List.append_nil]
        by_cases noneB : entriesOf keyword fileB = []
        · rw [if_pos (Or.inr noneB), noneB]
          simp [noneA]
        · rw [if_neg (by simp [noneB])]
          simp [noneA, noneB]

theorem reload_started (bindsR : Nat → AddressFamily → Bool) (first : ServerConfig) (lines : List Text)
    (passes : ∀ line ∈ parameterLines platform lines, Passes platform false line) :
    reload platform bindsR first lines = withFile platform bindsR 0 first (parameterLines platform lines) := by
  have all := (read_lines_spec platform bindsR true (parameterLines platform lines) 0 first).1
    fun line member => passes_reload platform line (passes line member)
  rw [reload, readConfigFile, all]

theorem values_again (detected : Bool) (binds : Nat → AddressFamily → Bool) (config first : ServerConfig) (file : List Assignment)
    (started : Started platform detected binds config file first) : settle first.values (settingsOf file) = first.values ↔
      (resolveStorageMode first = .sql → lastSetting .volatileRing (settingsOf file) ≠ some false) := by
  obtain ⟨values, isValues, first'⟩ := started.values
  by_cases sql : resolveStorageMode first = .sql
  · rw [if_pos sql] at first'
    constructor
    · intro same _ isFalse
      have atVolatile := congrFun same .volatileRing
      rw [settle_last, isFalse, first', Function.update_self] at atVolatile
      exact Bool.false_ne_true atVolatile
    · intro notFalse
      funext p
      rw [settle_last, first']
      by_cases here : p = .volatileRing
      · subst here
        rw [Function.update_self]
        cases last : lastSetting Parameter.volatileRing (settingsOf file) with
        | none => rfl
        | some value =>
            cases value with
            | true => rfl
            | false => exact absurd last (notFalse sql)
      · rw [Function.update_of_ne here, isValues, ← settle_last, settle_twice]
  · rw [if_neg sql] at first'
    refine iff_of_true ?_ (fun other => absurd other sql)
    rw [first', isValues, settle_twice]

-- A server that starts with one file and reads another, against one that starts with the
-- other. No list has entries before a file is read.
theorem reloads_iff (detected : Bool) (config first second : ServerConfig) (noLists : config.ips = fun _ => [])
    (binds bindsA bindsB bindsC : Nat → AddressFamily → Bool) (linesA linesB : List Text)
    (startsA : startServer platform binds detected config linesA = some first)
    (startsB : startServer platform bindsC detected config linesB = some second) :
    ReloadsWell platform bindsA bindsB first second linesA linesB ↔
      Reloadable platform bindsA bindsB detected first (parameterLines platform linesA) (parameterLines platform linesB) := by
  have startedA := start_server_spec platform binds detected config first linesA noLists startsA
  have startedB := start_server_spec platform bindsC detected config second linesB noLists startsB
  have reloadA := reload_started platform bindsA first linesA startedA.passes
  have reloadB := reload_started platform bindsB first linesB startedB.passes
  have values := values_again platform detected binds config first _ startedA
  have lists (keyword : IPList) : (reload platform bindsB first linesB).ips keyword = second.ips keyword ↔
      Revokes platform detected (parameterLines platform linesA) (parameterLines platform linesB) keyword := by
    rw [reloadB, startedB.ips keyword]
    show _ ++ first.ips keyword = _ ↔ _
    rw [List.append_cancel_left_eq, startedA.ips keyword, revokes_iff]
  have fixed (p : Parameter) : (reload platform bindsB first linesB).values p = first.values p ↔
      ∀ value, lastSetting p (settingsOf (parameterLines platform linesB)) = some value → first.values p = value := by
    rw [reloadB]
    show settle first.values _ p = _ ↔ _
    rw [settle_last]
    cases lastSetting p (settingsOf (parameterLines platform linesB)) with
    | none => exact iff_of_true rfl (fun value impossible => by cases impossible)
    | some value =>
        constructor
        · rintro same other isOther
          rw [← Option.some.inj isOther]
          exact same.symm
        · exact fun all => (all value rfl).symm
  constructor
  · intro well
    refine ⟨⟨?_, ?_⟩, ?_, fun keyword => (lists keyword).mp (congrFun well.lists keyword), fun p value isFixed =>
      (fixed p).mp (well.fixed p isFixed) value⟩
    · have threads := well.again.sthreads
      rw [reloadA] at threads
      exact List.append_left_eq_self.mp threads
    · have threads := well.sthreads
      rw [reloadB] at threads
      exact List.append_left_eq_self.mp threads
    · have same := well.again.values
      rw [reloadA] at same
      exact values.mp same
  · intro able
    refine ⟨⟨?_, fun keyword addr => ?_, fun keyword => ?_, ?_⟩, funext fun keyword => (lists keyword).mpr (able.revokes keyword),
      fun p isFixed => (fixed p).mpr fun value => able.fixed p value isFixed, ?_⟩
    · rw [reloadA]
      exact values.mpr able.volatile
    · rw [reloadA]
      show findMatchingIP (_ ++ first.ips keyword) addr = _
      rw [startedA.ips keyword, find_matching_again]
    · rw [reloadA]
      show _ ++ first.ips keyword = [] ↔ _
      rw [startedA.ips keyword]
      simp
    · rw [reloadA]
      exact List.append_left_eq_self.mpr able.bound.1
    · rw [reloadB]
      exact List.append_left_eq_self.mpr able.bound.2

end

-- A system where nothing binds, with the dotted quads and the loopback of IPv6.
def quadPlatform : Platform where
  tryParseAddress := fun text =>
    if text = "::1".toList then some ⟨.interNetworkV6, List.replicate 15 0 ++ [1], 0⟩
    else
      let parts := text.splitOnP fun c => c = '.'
      let bytes := parts.filterMap fun part => (tryParseInteger 0 255 part).map fun byte => UInt8.ofNat byte.toNat
      if parts.length = 4 ∧ bytes.length = 4 then some ⟨.interNetwork, bytes, 0⟩ else none
  tryParseFloat := fun _ => none
  doubleSize := fun _ _ => none
  supports := fun _ => true

def noBinds : Nat → AddressFamily → Bool := fun _ _ => false

theorem server_id_reloaded : ∃ first second, startServer quadPlatform noBinds false initialConfig ["ServerID Ring".toList] = some first ∧
    startServer quadPlatform noBinds false initialConfig [] = some second ∧
    ReloadsWell quadPlatform noBinds noBinds first second ["ServerID Ring".toList] [] := by
  refine ⟨_, _, rfl, rfl, ?_⟩
  refine (reloads_iff quadPlatform false initialConfig _ _ rfl noBinds noBinds noBinds noBinds ["ServerID Ring".toList] [] rfl rfl).mpr ?_
  refine ⟨⟨rfl, rfl⟩, fun sql => absurd sql (by decide), fun keyword => Or.inl ⟨?_, Or.inr (Or.inl rfl)⟩, fun p value _ last => ?_⟩
  · cases keyword <;> rfl
  · cases last

-- The write permission of 10.0.0.1 is taken out of the file.
theorem write_permission_kept :
    (startServer quadPlatform noBinds false initialConfig ["WriteIP 10.0.0.1".toList]).map (fun first =>
      matchIP ((reload quadPlatform noBinds first ["WriteIP 10.0.0.2".toList]).ips .writeIps) ⟨.interNetwork, [10, 0, 0, 1], 0⟩) =
        some true ∧
    (startServer quadPlatform noBinds false initialConfig ["WriteIP 10.0.0.2".toList]).map (fun second =>
      matchIP (second.ips .writeIps) ⟨.interNetwork, [10, 0, 0, 1], 0⟩) = some false := by
  decide

end RingServer.Config
