import RingServer.Config.Reload

set_option autoImplicit false

namespace RingServer.Config

open Library

-- What ProcessParam makes of an argument: it ends the process, it is an option by itself or
-- one with the next argument for its value, or it names the configuration file.
inductive Argument where
  | exits (code : Int)
  | verbosity (vcount : Nat)
  | flag (line : Assignment)
  | option (line : Text → Assignment)
  | configFile

-- An exception of Parse or of a socket is not caught.
inductive CommandLine where
  | parsed (config : ServerConfig) (configFile : Option Text)
  | exited (code : Int)
  | crashed

inductive Item where
  | assign (line : Assignment)
  | verbosity (vcount : Nat)
  | configFile (name : Text)
  | exits (code : Int)

section

-- StartsWith of a string in the culture of the process.
variable (platform : Platform) (startsWith : Text → Text → Bool)

def options : List (Text × Argument) :=
  let int := fun text => (tryParseInt text).map Int32.ofInt
  [("-I".toList, .option fun value => .set ⟨.serverId, some value⟩),
    ("-m".toList, .option fun value => .ofOption .maxClients (tryParseUInt value)),
    ("-M".toList, .option fun value => .ofOption .maxClientsPerIP (tryParseUInt value)),
    ("-Rd".toList, .option fun value => .set ⟨.ringDir, some value⟩),
    ("-Rs".toList, .option fun value => .set ⟨.ringSize, calcSize platform value⟩),
    ("-Rp".toList, .option fun value => (tryParseUInt value).elim .throws fun datasize => .set ⟨.pktSize, (112 + datasize : UInt32)⟩),
    ("-NOMM".toList, .flag (.set ⟨.memoryMapRing, false⟩)),
    ("-L".toList, .option fun value => listenAssignment (some value) .all),
    ("-DL".toList, .option fun value => listenAssignment (some value) ⟨true, false, false⟩),
    ("-SL".toList, .option fun value => listenAssignment (some value) ⟨false, true, false⟩),
    ("-HL".toList, .option fun value => listenAssignment (some value) ⟨false, false, true⟩),
    ("-T".toList, .option fun value => .set ⟨.tLogBaseDir, some value⟩),
    ("-Ti".toList, .option fun value => .ofOption .tLogInterval ((int value).map fun hours => (hours * 3600 : Int32))),
    ("-Tp".toList, .option fun value => .set ⟨.tLogPrefix, some value⟩),
    ("-STDERR".toList, .flag .nothing),
    ("-MSWRITE".toList, .option fun value => .set ⟨.mSeedArchive, some value⟩),
    ("-MSSCAN".toList, .option .mSeedScan),
    ("-VOLATILE".toList, .flag (.set ⟨.volatileRing, true⟩)),
    ("-NOAUTOREC".toList, .flag (.set ⟨.autoRecovery, (0 : UInt8)⟩)),
    ("-StorageMode".toList, .option fun value => .set ⟨.storageMode, storageModeOf value⟩)]

def argumentOf (arg : Text) : Argument :=
  if arg = "-V".toList ∨ arg = "-C".toList then .exits 0
  else if arg = "-h".toList ∨ arg = "-H".toList then .exits 1
  else if startsWith arg "-v".toList then .verbosity (1 + ((arg.drop 1).takeWhile fun c => c = 'v').length)
  else match (options platform).find? fun row => row.1 = arg with
    | some row => row.2
    | none => if arg.head? = some '-' then .exits 1 else .configFile

def addVerbosity (config : ServerConfig) (vcount : Nat) : ServerConfig :=
  let verbose : Int32 := config.values .verbose
  { config with values := Function.update config.values .verbose (verbose + Int32.ofNat vcount : Int32) }

-- The loop over the arguments; an option that is the last one has an empty value. binds
-- says for each option which families bind.
def processArgs (binds : Nat → AddressFamily → Bool) : Nat → ServerConfig → Option Text → List Text → CommandLine
  | _, config, configFile, [] => .parsed config configFile
  | i, config, configFile, arg :: rest =>
      match argumentOf platform startsWith arg with
      | .exits code => .exited code
      | .verbosity vcount => processArgs binds i (addVerbosity config vcount) configFile rest
      | .flag line => processArgs binds (i + 1) (setParameter platform (binds i) false config line).1 configFile rest
      | .configFile => processArgs binds i config (some arg) rest
      | .option line =>
          match rest with
          | [] =>
              let (config, code) := setParameter platform (binds i) false config (line [])
              if code < 0 then .crashed else .parsed config configFile
          | value :: rest =>
              let (config, code) := setParameter platform (binds i) false config (line value)
              if code < 0 then .crashed else processArgs binds (i + 1) config configFile rest

-- The start of the server up to the ring. files is ReadAllLines, where none is an
-- exception; found says whether there is a ring.conf beside the program.
def startWith (binds fileBinds : Nat → AddressFamily → Bool) (files : Text → Option (List Text)) (ringConf : Text) (found : Bool)
    (args : List Text) : Option ServerConfig :=
  match processArgs platform startsWith binds 0 initialConfig none args with
  | .parsed config (some name) => (files name).bind fun lines => startServer platform fileBinds false config lines
  | .parsed config none =>
      if found then (files ringConf).bind fun lines => startServer platform fileBinds true config lines
      else startServer platform fileBinds false config []
  | _ => none

def itemsOf : List Text → List Item
  | [] => []
  | arg :: rest =>
      match argumentOf platform startsWith arg with
      | .exits code => [.exits code]
      | .verbosity vcount => .verbosity vcount :: itemsOf rest
      | .flag line => .assign line :: itemsOf rest
      | .configFile => .configFile arg :: itemsOf rest
      | .option line =>
          match rest with
          | [] => [.assign (line [])]
          | value :: rest => .assign (line value) :: itemsOf rest

end

def Item.line : Item → Option Assignment
  | .assign line => some line
  | _ => none

def Item.vcount : Item → Nat
  | .verbosity vcount => vcount
  | _ => 0

def Item.name : Item → Option Text
  | .configFile name => some name
  | _ => none

def linesOf (items : List Item) : List Assignment := items.filterMap Item.line

def vcountOf (items : List Item) : Nat := (items.map Item.vcount).sum

def fileOf (items : List Item) : Option Text := (items.filterMap Item.name).getLast?

def Item.Passes (platform : Platform) : Item → Prop
  | .assign line => Config.Passes platform false line
  | .exits _ => False
  | _ => True

def Reads (files : Text → Option (List Text)) (ringConf : Text) (found : Bool) (items : List Item) (detected : Bool) (lines : List Text) :
    Prop :=
  match fileOf items with
  | some name => detected = false ∧ files name = some lines
  | none => if found then detected = true ∧ files ringConf = some lines else detected = false ∧ lines = []

-- A file goes before the options, wherever it is named, the last line or option for a
-- parameter before the others, and both before what the server has by itself.
structure Governed (platform : Platform) (binds fileBinds : Nat → AddressFamily → Bool) (items : List Item) (detected : Bool)
    (file : List Assignment) (config : ServerConfig) : Prop where
  values : ∀ p, p ≠ .verbose → p ≠ .volatileRing →
    config.values p = (lastSetting p (settingsOf file)).getD ((lastSetting p (settingsOf (linesOf items))).getD (initialValues p))
  verbose : config.values .verbose = (lastSetting .verbose (settingsOf file)).getD (1 + Int32.ofNat (vcountOf items) : Int32)
  volatileRing : config.values .volatileRing = if resolveStorageMode config = .sql then true else
    (lastSetting .volatileRing (settingsOf file)).getD ((lastSetting .volatileRing (settingsOf (linesOf items))).getD false)
  ips : ∀ keyword, config.ips keyword = entriesOf keyword file ++ startRest platform detected file keyword
  sthreads : config.sthreads = addedThreads platform fileBinds 0 file ++ addedThreads platform binds 0 (linesOf items)

def Item.settle (values : (p : Parameter) → p.Value) : Item → (p : Parameter) → p.Value
  | .assign line => Library.settle values line.setting.toList
  | .verbosity vcount =>
      let verbose : Int32 := values .verbose
      Function.update values .verbose (verbose + Int32.ofNat vcount : Int32)
  | _ => values

def withItems (platform : Platform) (binds : Nat → AddressFamily → Bool) (i : Nat) (config : ServerConfig) (items : List Item) :
    ServerConfig where
  values := items.foldl Item.settle config.values
  ips := fun keyword => entriesOf keyword (linesOf items) ++ config.ips keyword
  sthreads := addedThreads platform binds i (linesOf items) ++ config.sthreads

structure OptionLine (line : Assignment) : Prop where
  setting : ∀ value, line.setting ≠ some ⟨.verbose, value⟩
  entry : ∀ keyword, line.entry keyword = none

def Argument.Plain (platform : Platform) : Argument → Prop
  | .flag line => OptionLine line ∧ Passes platform false line
  | .option line => ∀ value, OptionLine (line value)
  | _ => True

section

variable (platform : Platform) (startsWith : Text → Text → Bool)

theorem nothing_option_line : OptionLine .nothing := ⟨fun _ same => (by cases same), fun _ => rfl⟩

theorem set_option_line (p : Parameter) (value : p.Value) (other : p ≠ .verbose) : OptionLine (.set ⟨p, value⟩) where
  setting _ same := other (congrArg Sigma.fst (Option.some.inj same))
  entry _ := rfl

theorem of_option_line (p : Parameter) (value : Option p.Value) (other : p ≠ .verbose) : OptionLine (.ofOption p value) := by
  cases value with
  | none => exact nothing_option_line
  | some value => exact set_option_line p value other

theorem listen_option_line (value : Text) (protocols : ListenProtocols) : OptionLine (listenAssignment (some value) protocols) := by
  rw [listenAssignment]
  split
  · exact ⟨fun _ same => (by cases same), fun _ => rfl⟩
  · exact ⟨fun _ same => (by cases same), fun _ => rfl⟩

theorem pkt_size_option_line (value : Text) :
    OptionLine ((tryParseUInt value).elim .throws fun datasize => .set ⟨.pktSize, (112 + datasize : UInt32)⟩) := by
  cases tryParseUInt value with
  | none => exact ⟨fun _ same => (by cases same), fun _ => rfl⟩
  | some datasize => exact set_option_line .pktSize _ (by decide)

theorem options_plain : ∀ row ∈ options platform, row.2.Plain platform := by
  rw [options]
  simp only [List.forall_mem_cons]
  refine ⟨fun _ => set_option_line _ _ (by decide), fun _ => of_option_line _ _ (by decide), fun _ => of_option_line _ _ (by decide),
    fun _ => set_option_line _ _ (by decide), fun _ => set_option_line _ _ (by decide), pkt_size_option_line,
    ⟨set_option_line _ _ (by decide), trivial⟩, fun value => listen_option_line value _, fun value => listen_option_line value _,
    fun value => listen_option_line value _, fun value => listen_option_line value _, fun _ => set_option_line _ _ (by decide),
    fun _ => of_option_line _ _ (by decide), fun _ => set_option_line _ _ (by decide), ⟨nothing_option_line, trivial⟩,
    fun _ => set_option_line _ _ (by decide), fun _ => ⟨fun _ same => (by cases same), fun _ => rfl⟩,
    ⟨set_option_line _ _ (by decide), trivial⟩, ⟨set_option_line _ _ (by decide), trivial⟩, fun _ => set_option_line _ _ (by decide),
    fun _ member => absurd member List.not_mem_nil⟩

theorem argument_plain (arg : Text) : (argumentOf platform startsWith arg).Plain platform := by
  rw [argumentOf]
  split
  · trivial
  · split
    · trivial
    · split
      · trivial
      · split
        · next row isRow => exact options_plain platform row (List.mem_of_find?_eq_some isRow)
        · split
          · trivial
          · trivial

theorem with_items_line (binds : Nat → AddressFamily → Bool) (i : Nat) (config : ServerConfig) (line : Assignment) (items : List Item) :
    withItems platform binds (i + 1) (setParameter platform (binds i) false config line).1 items =
      withItems platform binds i config (.assign line :: items) := by
  have lines : linesOf (.assign line :: items) = line :: linesOf items := rfl
  rw [set_parameter_line, withItems, withItems, lines]
  simp only [List.foldl_cons, Item.settle, entries_cons, addedThreads, List.append_assoc]

theorem file_of_named (name : Text) (items : List Item) (configFile : Option Text) :
    (fileOf (.configFile name :: items)).or configFile = (fileOf items).or (some name) := by
  have names : fileOf (.configFile name :: items) = (name :: items.filterMap Item.name).getLast? := rfl
  rw [names, List.getLast?_cons, fileOf]
  cases (items.filterMap Item.name).getLast? with
  | none => rfl
  | some other => rfl

structure Processed (binds : Nat → AddressFamily → Bool) (i : Nat) (config : ServerConfig) (configFile : Option Text) (items : List Item)
    (result : CommandLine) : Prop where
  whole : (∀ item ∈ items, item.Passes platform) → result = .parsed (withItems platform binds i config items) ((fileOf items).or configFile)
  passes : ∀ last name, result = .parsed last name → ∀ item ∈ items, item.Passes platform

section

variable (binds : Nat → AddressFamily → Bool) (i : Nat) (config : ServerConfig) (configFile : Option Text) (items : List Item)
  (result : CommandLine)

theorem processed_done : Processed platform binds i config configFile [] (.parsed config configFile) where
  whole _ := rfl
  passes _ _ _ _ member := absurd member List.not_mem_nil

theorem processed_stops (item : Item) (fails : ¬ item.Passes platform) (stopped : ∀ last name, result ≠ .parsed last name) :
    Processed platform binds i config configFile (item :: items) result where
  whole all := absurd (all item List.mem_cons_self) fails
  passes last name parsed := absurd parsed (stopped last name)

theorem processed_next (item : Item) (j : Nat) (next : ServerConfig) (nextFile : Option Text) (good : item.Passes platform)
    (same : withItems platform binds j next items = withItems platform binds i config (item :: items))
    (sameFile : (fileOf items).or nextFile = (fileOf (item :: items)).or configFile)
    (rest : Processed platform binds j next nextFile items result) : Processed platform binds i config configFile (item :: items) result where
  whole all := by
    rw [rest.whole fun other member => all other (List.mem_cons_of_mem _ member), same, sameFile]
  passes last name parsed := List.forall_mem_cons.mpr ⟨good, rest.passes last name parsed⟩

theorem processed_line (line : Assignment) (good : Passes platform false line)
    (rest : Processed platform binds (i + 1) (setParameter platform (binds i) false config line).1 configFile items result) :
    Processed platform binds i config configFile (.assign line :: items) result :=
  processed_next platform binds i config configFile items result (.assign line) _ _ configFile good
    (with_items_line platform binds i config line items) rfl rest

end

theorem process_args_spec (binds : Nat → AddressFamily → Bool) (i : Nat) (config : ServerConfig) (configFile : Option Text)
    (args : List Text) :
    Processed platform binds i config configFile (itemsOf platform startsWith args)
      (processArgs platform startsWith binds i config configFile args) := by
  fun_induction processArgs platform startsWith binds i config configFile args with
  | case1 i config configFile => exact processed_done platform binds i config configFile
  | case2 i config configFile arg rest code isArgument =>
      rw [itemsOf.eq_def]
      simp only [isArgument]
      exact processed_stops platform binds i config configFile [] _ (.exits code) not_false fun _ _ same => by cases same
  | case3 i config configFile arg rest vcount isArgument ih =>
      rw [itemsOf.eq_def]
      simp only [isArgument]
      exact processed_next platform binds i config configFile _ _ (.verbosity vcount) i (addVerbosity config vcount) configFile trivial rfl rfl ih
  | case4 i config configFile arg rest line isArgument ih =>
      have plain := argument_plain platform startsWith arg
      rw [isArgument] at plain
      rw [itemsOf.eq_def]
      simp only [isArgument]
      exact processed_line platform binds i config configFile _ _ line plain.2 ih
  | case5 i config configFile arg rest isArgument ih =>
      rw [itemsOf.eq_def]
      simp only [isArgument]
      exact processed_next platform binds i config configFile _ _ (.configFile arg) i config (some arg) trivial rfl
        (file_of_named arg _ configFile).symm ih
  | case6 i config configFile arg line isArgument last code ran fails =>
      have spec := set_parameter_spec platform binds i false config (line [])
      rw [ran] at spec
      rw [itemsOf.eq_def]
      simp only [isArgument]
      exact processed_stops platform binds i config configFile [] _ (.assign (line [])) (spec.mp fails) fun _ _ same => by cases same
  | case7 i config configFile arg line isArgument last code ran goes =>
      have spec := set_parameter_spec platform binds i false config (line [])
      rw [ran] at spec
      rw [itemsOf.eq_def]
      simp only [isArgument]
      apply processed_line platform binds i config configFile [] _ (line []) (not_not.mp fun not => goes (spec.mpr not))
      rw [ran]
      exact processed_done platform binds (i + 1) last configFile
  | case8 i config configFile arg line isArgument value rest last code ran fails =>
      have spec := set_parameter_spec platform binds i false config (line value)
      rw [ran] at spec
      rw [itemsOf.eq_def]
      simp only [isArgument]
      exact processed_stops platform binds i config configFile _ _ (.assign (line value)) (spec.mp fails) fun _ _ same => by cases same
  | case9 i config configFile arg line isArgument value rest last code ran goes ih =>
      have spec := set_parameter_spec platform binds i false config (line value)
      rw [ran] at spec
      rw [itemsOf.eq_def]
      simp only [isArgument]
      apply processed_line platform binds i config configFile _ _ (line value) (not_not.mp fun not => goes (spec.mpr not))
      rw [ran]
      exact ih

theorem items_plain (args : List Text) : ∀ line ∈ linesOf (itemsOf platform startsWith args), OptionLine line := by
  fun_induction itemsOf platform startsWith args with
  | case1 => exact fun _ member => absurd member List.not_mem_nil
  | case2 => exact fun _ member => absurd member List.not_mem_nil
  | case3 _ _ _ _ ih => exact ih
  | case4 arg rest line isArgument ih =>
      have plain := argument_plain platform startsWith arg
      rw [isArgument] at plain
      exact List.forall_mem_cons.mpr ⟨plain.1, ih⟩
  | case5 _ _ _ ih => exact ih
  | case6 arg line isArgument =>
      have plain := argument_plain platform startsWith arg
      rw [isArgument] at plain
      exact List.forall_mem_singleton.mpr (plain [])
  | case7 arg line isArgument value rest ih =>
      have plain := argument_plain platform startsWith arg
      rw [isArgument] at plain
      exact List.forall_mem_cons.mpr ⟨plain value, ih⟩

theorem items_values (values : (p : Parameter) → p.Value) (items : List Item) (p : Parameter) (other : p ≠ .verbose) :
    items.foldl Item.settle values p = (lastSetting p (settingsOf (linesOf items))).getD (values p) := by
  rw [← settle_last]
  induction items generalizing values with
  | nil => rfl
  | cons item items ih =>
      rw [List.foldl_cons, ih]
      cases item with
      | assign line =>
          have lines : linesOf (.assign line :: items) = line :: linesOf items := rfl
          rw [lines, settings_cons, settle_append]
          rfl
      | verbosity vcount =>
          have lines : linesOf (.verbosity vcount :: items) = linesOf items := rfl
          rw [lines, settle_last, settle_last, Item.settle, Function.update_of_ne other]
      | configFile name => rfl
      | exits code => rfl

theorem setting_not_verbose (values : (p : Parameter) → p.Value) (line : Assignment) (plain : OptionLine line) :
    settle values line.setting.toList .verbose = values .verbose := by
  cases isSetting : line.setting with
  | none => rfl
  | some setting =>
      obtain ⟨p, value⟩ := setting
      have other : Parameter.verbose ≠ p := by
        rintro rfl
        exact plain.setting value isSetting
      exact Function.update_of_ne other _ _

theorem vcount_quiet (item : Item) (items : List Item) (quiet : item.vcount = 0) : vcountOf (item :: items) = vcountOf items := by
  have sum : vcountOf (item :: items) = item.vcount + vcountOf items := rfl
  rw [sum, quiet, Nat.zero_add]

theorem items_verbosity (values : (p : Parameter) → p.Value) (items : List Item) (plain : ∀ line ∈ linesOf items, OptionLine line)
    (verbose : Int32) (isVerbose : values .verbose = verbose) :
    items.foldl Item.settle values .verbose = (verbose + Int32.ofNat (vcountOf items) : Int32) := by
  induction items generalizing values verbose with
  | nil => exact isVerbose.trans (Int32.add_zero _).symm
  | cons item items ih =>
      cases item with
      | assign line =>
          have rest := List.forall_mem_cons.mp plain
          rw [List.foldl_cons, ih ((Item.assign line).settle values) rest.2 verbose ((setting_not_verbose values line rest.1).trans isVerbose),
            vcount_quiet _ _ rfl]
      | verbosity vcount =>
          have set : (Item.verbosity vcount).settle values .verbose = (verbose + Int32.ofNat vcount : Int32) := by
            rw [Item.settle, Function.update_self, isVerbose]
          rw [List.foldl_cons, ih _ plain _ set, Int32.add_assoc, ← Int32.ofNat_add]
          rfl
      | configFile name => rw [List.foldl_cons, ih ((Item.configFile name).settle values) plain verbose isVerbose, vcount_quiet _ _ rfl]
      | exits code => rw [List.foldl_cons, ih ((Item.exits code).settle values) plain verbose isVerbose, vcount_quiet _ _ rfl]

theorem governed_unique (binds fileBinds : Nat → AddressFamily → Bool) (items : List Item) (detected : Bool) (file : List Assignment)
    (config other : ServerConfig) (governed : Governed platform binds fileBinds items detected file config)
    (governed' : Governed platform binds fileBinds items detected file other) : config = other := by
  have same (p : Parameter) (notVerbose : p ≠ .verbose) (notVolatile : p ≠ .volatileRing) : config.values p = other.values p := by
    rw [governed.values p notVerbose notVolatile, governed'.values p notVerbose notVolatile]
  have mode : resolveStorageMode config = resolveStorageMode other := by
    rw [resolveStorageMode, resolveStorageMode, same .storageMode (by decide) (by decide), same .postgresConnStr (by decide) (by decide)]
  have values : config.values = other.values := by
    funext p
    by_cases isVerbose : p = .verbose
    · subst isVerbose
      rw [governed.verbose, governed'.verbose]
    · by_cases isVolatile : p = .volatileRing
      · subst isVolatile
        rw [governed.volatileRing, governed'.volatileRing, mode]
      · exact same p isVerbose isVolatile
  have ips : config.ips = other.ips := funext fun keyword => by rw [governed.ips, governed'.ips]
  have sthreads : config.sthreads = other.sthreads := by rw [governed.sthreads, governed'.sthreads]
  cases config
  cases other
  simp only at values ips sthreads
  rw [values, ips, sthreads]

theorem force_volatile_threads (config : ServerConfig) : (forceVolatile config).sthreads = config.sthreads := by
  rw [forceVolatile]
  split
  · rfl
  · rfl

theorem start_server_threads (binds : Nat → AddressFamily → Bool) (detected : Bool) (config : ServerConfig) (lines : List Text)
    (passes : ∀ line ∈ parameterLines platform lines, Passes platform false line) :
    ∃ started, startServer platform binds detected config lines = some started ∧
      started.sthreads = addedThreads platform binds 0 (parameterLines platform lines) ++ config.sthreads := by
  have good : ¬ (0 : Int) < 0 := by decide
  cases detected with
  | true =>
      have whole := (read_lines_spec platform binds false (parameterLines platform lines) 0 (addDefaults platform config)).1 passes
      refine ⟨_, by rw [startServer, if_pos rfl, readConfigFile, whole]; exact if_neg good, ?_⟩
      rw [force_volatile_threads, add_defaults_spec]
      rfl
  | false =>
      have whole := (read_lines_spec platform binds false (parameterLines platform lines) 0 config).1 passes
      refine ⟨_, by rw [startServer, if_neg Bool.false_ne_true, readConfigFile, whole]; exact if_neg good, ?_⟩
      rw [force_volatile_threads, add_defaults_spec]
      rfl

section

variable (binds fileBinds : Nat → AddressFamily → Bool) (args : List Text)

theorem options_no_lists : (withItems platform binds 0 initialConfig (itemsOf platform startsWith args)).ips = fun _ => [] := by
  funext keyword
  have none : (linesOf (itemsOf platform startsWith args)).filterMap (Assignment.entry keyword) = [] :=
    List.filterMap_eq_nil_iff.mpr fun line member => (items_plain platform startsWith args line member).entry keyword
  have same : (withItems platform binds 0 initialConfig (itemsOf platform startsWith args)).ips keyword =
      entriesOf keyword (linesOf (itemsOf platform startsWith args)) ++ [] := rfl
  rw [same, entriesOf, none]
  rfl

theorem options_governed (detected : Bool) (lines : List Text) (passes : ∀ line ∈ parameterLines platform lines, Passes platform false line) :
    ∃ started, startServer platform fileBinds detected (withItems platform binds 0 initialConfig (itemsOf platform startsWith args)) lines =
        some started ∧
      Governed platform binds fileBinds (itemsOf platform startsWith args) detected (parameterLines platform lines) started := by
  obtain ⟨started, ran, sthreads⟩ := start_server_threads platform fileBinds detected
    (withItems platform binds 0 initialConfig (itemsOf platform startsWith args)) lines passes
  obtain ⟨_, ⟨values, isValues, startedValues⟩, ips⟩ := start_server_spec platform fileBinds detected _ started lines
    (options_no_lists platform startsWith binds args) ran
  have begins : (withItems platform binds 0 initialConfig (itemsOf platform startsWith args)).values =
    (itemsOf platform startsWith args).foldl Item.settle initialValues := rfl
  have other (p : Parameter) (notVolatile : p ≠ .volatileRing) : started.values p = values p := by
    rw [startedValues]
    split
    · exact Function.update_of_ne notVolatile _ _
    · rfl
  have fromItems (p : Parameter) (notVerbose : p ≠ .verbose) : values p = (lastSetting p (settingsOf (parameterLines platform lines))).getD
      ((lastSetting p (settingsOf (linesOf (itemsOf platform startsWith args)))).getD (initialValues p)) := by
    rw [isValues, settle_last, begins, items_values _ _ _ notVerbose]
  refine ⟨started, ran, fun p notVerbose notVolatile => ?_, ?_, ?_, ips, ?_⟩
  · rw [other p notVolatile, fromItems p notVerbose]
  · rw [other .verbose (by decide), isValues, settle_last, begins, items_verbosity _ _ (items_plain platform startsWith args) 1 rfl]
  · rw [startedValues]
    split
    · exact Function.update_self _ _ _
    · rw [fromItems .volatileRing (by decide)]
      rfl
  · rw [sthreads, withItems]
    exact congrArg _ (List.append_nil _)

theorem started_as_named (detected : Bool) (lines : List Text) (config : ServerConfig) :
    startServer platform fileBinds detected (withItems platform binds 0 initialConfig (itemsOf platform startsWith args)) lines = some config ↔
      (∀ line ∈ parameterLines platform lines, Passes platform false line) ∧
        Governed platform binds fileBinds (itemsOf platform startsWith args) detected (parameterLines platform lines) config := by
  constructor
  · intro ran
    have passes := (start_server_spec platform fileBinds detected _ config lines (options_no_lists platform startsWith binds args) ran).passes
    obtain ⟨started, ran', governed⟩ := options_governed platform startsWith binds fileBinds args detected lines passes
    rw [ran] at ran'
    obtain rfl := Option.some.inj ran'
    exact ⟨passes, governed⟩
  · rintro ⟨passes, governed⟩
    obtain ⟨started, ran, governed'⟩ := options_governed platform startsWith binds fileBinds args detected lines passes
    rw [ran, governed_unique platform binds fileBinds _ detected _ started config governed' governed]

-- The server starts just on the arguments and files of which all passes, and then every
-- parameter, list and thread is what the last word on it says.
theorem command_line_governs (files : Text → Option (List Text)) (ringConf : Text) (found : Bool) (config : ServerConfig) :
    startWith platform startsWith binds fileBinds files ringConf found args = some config ↔
      (∀ item ∈ itemsOf platform startsWith args, item.Passes platform) ∧
        ∃ detected lines, Reads files ringConf found (itemsOf platform startsWith args) detected lines ∧
          (∀ line ∈ parameterLines platform lines, Passes platform false line) ∧
            Governed platform binds fileBinds (itemsOf platform startsWith args) detected (parameterLines platform lines) config := by
  have named := started_as_named platform startsWith binds fileBinds args
  obtain ⟨whole, only⟩ := process_args_spec platform startsWith binds 0 initialConfig none args
  rw [startWith]
  by_cases passes : ∀ item ∈ itemsOf platform startsWith args, item.Passes platform
  · rw [whole passes, Option.or_none, and_iff_right passes]
    simp only [Reads]
    cases fileOf (itemsOf platform startsWith args) with
    | some name =>
        constructor
        · intro ran
          obtain ⟨lines, isLines, started⟩ := Option.bind_eq_some_iff.mp ran
          exact ⟨false, lines, ⟨rfl, isLines⟩, (named false lines config).mp started⟩
        · rintro ⟨_, lines, ⟨rfl, isLines⟩, governed⟩
          exact Option.bind_eq_some_iff.mpr ⟨lines, isLines, (named false lines config).mpr governed⟩
    | none =>
        cases found with
        | true =>
            constructor
            · intro ran
              obtain ⟨lines, isLines, started⟩ := Option.bind_eq_some_iff.mp ran
              exact ⟨true, lines, ⟨rfl, isLines⟩, (named true lines config).mp started⟩
            · rintro ⟨_, lines, ⟨rfl, isLines⟩, governed⟩
              exact Option.bind_eq_some_iff.mpr ⟨lines, isLines, (named true lines config).mpr governed⟩
        | false =>
            constructor
            · intro ran
              exact ⟨false, [], ⟨rfl, rfl⟩, (named false [] config).mp ran⟩
            · rintro ⟨_, _, ⟨rfl, rfl⟩, governed⟩
              exact (named false [] config).mpr governed
  · refine ⟨fun ran => ?_, fun all => absurd all.1 passes⟩
    cases isResult : processArgs platform startsWith binds 0 initialConfig none args with
    | parsed last name => exact absurd (only last name isResult) passes
    | exited code =>
        rw [isResult] at ran
        cases ran
    | crashed =>
        rw [isResult] at ran
        cases ran

end

end

-- The last of two named files is read, and goes before an option behind it.
example : ((startWith quadPlatform (fun text start => start.isPrefixOf text) noBinds noBinds
    (fun name => if name = "b.conf".toList then some ["MaxClients 9".toList] else none) [] false
    ["a.conf".toList, "-v".toList, "b.conf".toList, "-m".toList, "7".toList]).map fun config => (config.values .maxClients : UInt32)) =
      some 9 := by decide +kernel

end RingServer.Config
