import RingServer.Config.Reload

set_option autoImplicit false

namespace RingServer.Config

open Library

-- What GetAddressBytes gives for the two families.
def IPAddress.WellFormed (addr : IPAddress) : Prop :=
  addr.bytes.length = match addr.family with
    | .interNetwork => 4
    | .interNetworkV6 => 16

inductive Names (tryParseAddress : Text → Option IPAddress) : Text → IPAddress → Nat → Prop
  | bare (address : Text) (addr : IPAddress) (plain : '/' ∉ address) (isAddress : tryParseAddress address = some addr) :
      Names tryParseAddress address addr (8 * addr.bytes.length)
  | bits (address length : Text) (addr : IPAddress) (n : Nat) (plain : '/' ∉ address) (isAddress : tryParseAddress address = some addr)
      (plainLength : '/' ∉ length) (isLength : tryParseInt length = some (n : Int)) (inside : n ≤ 8 * addr.bytes.length) :
      Names tryParseAddress (address ++ '/' :: length) addr n

def SameNetwork (n : Nat) (addr client : IPAddress) : Prop :=
  client.family = addr.family ∧ ∀ i, i < n → bitAt client.bytes i = bitAt addr.bytes i

structure NetCall where
  keyword : IPList
  network : Text
  limitStr : Option Text

def NetCall.entry (platform : Platform) (keyword : IPList) (call : NetCall) : Option IPNet :=
  if call.keyword = keyword then parseIPNet platform.tryParseAddress call.network call.limitStr else none

def addCall (platform : Platform) (config : ServerConfig) (call : NetCall) : ServerConfig :=
  (parseIPNet platform.tryParseAddress call.network call.limitStr).elim config (addIPNet config call.keyword)

def addCalls (platform : Platform) (config : ServerConfig) (calls : List NetCall) : ServerConfig := calls.foldl (addCall platform) config

structure Latest (platform : Platform) (keyword : IPList) (client : IPAddress) (calls : List NetCall) (entry : IPNet) : Prop where
  last : ∃ before call after, calls = before ++ call :: after ∧ call.entry platform keyword = some entry ∧
    entry.matches client = true ∧ ∀ later ∈ after, ∀ other, later.entry platform keyword = some other → other.matches client = false

theorem mask_byte_bit (bits : Int) (i : Nat) (inside : i < 8) : (maskByte bits).toNat.testBit i = decide (8 - bits ≤ i) := by
  by_cases none : bits ≤ 0
  · have zero : maskByte bits = 0 := by
      rw [maskByte, if_neg (by omega)]
    rw [zero, decide_eq_false (by omega)]
    exact Nat.zero_testBit i
  · have all : ∀ k : Fin 9, ∀ i : Fin 8, (maskByte (k.val : Int)).toNat.testBit i.val = decide (8 - (k.val : Int) ≤ (i.val : Int)) := by
      decide
    by_cases whole : 8 ≤ bits
    · have same : maskByte bits = maskByte ((8 : Nat) : Int) := by
        rw [maskByte, maskByte, Int.min_eq_left whole]
        rfl
      have bit := all 8 ⟨i, inside⟩
      rw [same, decide_eq_true (by omega)]
      exact bit.trans (decide_eq_true (by show 8 - ((8 : Nat) : Int) ≤ (i : Int); omega))
    · obtain ⟨k, rfl⟩ : ∃ k : Nat, bits = k := ⟨bits.toNat, by omega⟩
      exact all ⟨k, by omega⟩ ⟨i, inside⟩

theorem netmask_map (addrLen n : Nat) :
    netmaskOf addrLen (n : Int) = (List.range addrLen).map fun i : Nat => maskByte ((n : Int) - (i : Int) * 8) := by
  have lifted : (do
      let a ← List.range addrLen
      pure (a : Int)) = (List.range addrLen).map fun a : Nat => (a : Int) := List.map_eq_flatMap.symm
  rw [netmaskOf, if_pos (Int.natCast_nonneg n), lifted, List.map_map]
  rfl

theorem netmask_bare (addrLen : Nat) : netmaskOf addrLen (-1) = netmaskOf addrLen ((8 * addrLen : Nat) : Int) := by
  rw [netmask_map, netmaskOf, if_neg (by decide)]
  refine List.ext_getElem (by simp) fun i inside _ => ?_
  rw [List.length_replicate] at inside
  rw [List.getElem_replicate, List.getElem_map, List.getElem_range, maskByte, Int.min_eq_left (by omega)]
  rfl

theorem masked_iff (addr network : List UInt8) (n : Nat) (length : addr.length = network.length) (inside : n ≤ 8 * network.length) :
    ((addr.zip (network.zip (netmaskOf network.length n))).all fun entry => entry.1 &&& entry.2.2 = entry.2.1 &&& entry.2.2) = true ↔
      ∀ i, i < n → bitAt addr i = bitAt network i := by
  have bytes : ((addr.zip (network.zip (netmaskOf network.length n))).all fun entry => entry.1 &&& entry.2.2 = entry.2.1 &&& entry.2.2) =
      true ↔ ∀ i, i < network.length →
        addr.getD i 0 &&& maskByte (n - (i : Int) * 8) = network.getD i 0 &&& maskByte (n - (i : Int) * 8) := by
    rw [List.all_eq_true, netmask_map]
    constructor
    · intro all i below
      have member := all (addr.getD i 0, network.getD i 0, maskByte (n - (i : Int) * 8)) (by
        refine List.mem_iff_getElem.mpr ⟨i, ?_, ?_⟩
        · simp only [List.length_zip, List.length_map, List.length_range]
          omega
        · simp [List.getElem_zip, List.getD_eq_getElem?_getD, below, length])
      exact of_decide_eq_true member
    · intro all entry member
      obtain ⟨i, below, isEntry⟩ := List.mem_iff_getElem.mp member
      simp only [List.length_zip, List.length_map, List.length_range] at below
      have here := all i (by omega)
      rw [List.getElem_zip, List.getElem_zip, List.getElem_map, List.getElem_range] at isEntry
      rw [← isEntry]
      have first : addr.getD i 0 = addr[i] := by
        rw [List.getD_eq_getElem?_getD, List.getElem?_eq_getElem (by omega), Option.getD_some]
      have second : network.getD i 0 = network[i] := by
        rw [List.getD_eq_getElem?_getD, List.getElem?_eq_getElem (by omega), Option.getD_some]
      rw [first, second] at here
      exact decide_eq_true here
  rw [bytes]
  constructor
  · intro same i below
    have split := Nat.div_add_mod i 8
    have byte := (byte_and_iff _ _ _).mp (same (i / 8) (by omega)) (7 - i % 8) (by omega)
    apply byte
    rw [mask_byte_bit _ _ (by omega)]
    apply decide_eq_true
    omega
  · intro same i below
    rw [byte_and_iff]
    intro bit inByte masked
    rw [mask_byte_bit _ _ inByte, decide_eq_true_iff] at masked
    have here := same (8 * i + (7 - bit)) (by omega)
    have index : (8 * i + (7 - bit)) / 8 = i := by omega
    have offset : 7 - (8 * i + (7 - bit)) % 8 = bit := by omega
    rw [bitAt, bitAt, index, offset] at here
    exact here

theorem split_slash (address length : Text) (plain : '/' ∉ address) (plainLength : '/' ∉ length) :
    (address ++ '/' :: length).splitOnP (fun c => c = '/') = [address, length] := by
  have apart : ∀ text : Text, '/' ∉ text → ∀ c ∈ text, (decide (c = '/')) = false := by
    intro text plain c member
    apply decide_eq_false
    rintro rfl
    exact plain member
  rw [List.splitOnP_append_cons_of_forall_mem (apart address plain) '/' (by decide) length,
    List.splitOnP_eq_singleton (apart length plainLength)]

theorem named_entry (tryParseAddress : Text → Option IPAddress) (text : Text) (addr : IPAddress) (n : Nat)
    (names : Names tryParseAddress text addr n) (limitStr : Option Text) :
    ∃ entry, parseIPNet tryParseAddress text limitStr = some entry ∧ entry.family = addr.family ∧ entry.network = addr.bytes ∧
      entry.netmask = netmaskOf addr.bytes.length n ∧ entry.limitStr = limitStr ∧ n ≤ 8 * addr.bytes.length := by
  cases names with
  | bare _ _ plain isAddress =>
      have one : text.splitOnP (fun c => c = '/') = [text] := by
        apply List.splitOnP_eq_singleton
        intro c member
        apply decide_eq_false
        rintro rfl
        exact plain member
      refine ⟨⟨addr.family, addr.bytes, netmaskOf addr.bytes.length (-1), limitStr⟩, ?_, rfl, rfl, netmask_bare _, rfl, Nat.le_refl _⟩
      rw [parseIPNet, one]
      dsimp only [List.headD_cons]
      rw [isAddress]
      rfl
  | bits address length _ _ plain isAddress plainLength isLength inside =>
      refine ⟨⟨addr.family, addr.bytes, netmaskOf addr.bytes.length n, limitStr⟩, ?_, rfl, rfl, rfl, rfl, inside⟩
      rw [parseIPNet, split_slash address length plain plainLength]
      dsimp only [List.headD_cons]
      rw [isAddress]
      have second : ([address, length][1]?.bind tryParseInt).getD (-1) = (n : Int) := by
        show ((some length).bind tryParseInt).getD (-1) = (n : Int)
        rw [Option.bind_some, isLength, Option.getD_some]
      rw [second]
      rfl

theorem named_matches (addr client : IPAddress) (n : Nat) (wellFormed : addr.WellFormed) (clientFormed : client.WellFormed)
    (inside : n ≤ 8 * addr.bytes.length) (entry : IPNet) (family : entry.family = addr.family) (network : entry.network = addr.bytes)
    (netmask : entry.netmask = netmaskOf addr.bytes.length n) : entry.matches client = true ↔ SameNetwork n addr client := by
  rw [IPNet.matches, family, network, netmask, SameNetwork]
  by_cases same : client.family = addr.family
  · have length : client.bytes.length = addr.bytes.length := by
      rw [IPAddress.WellFormed] at wellFormed clientFormed
      rw [wellFormed, clientFormed, same]
    rw [← masked_iff client.bytes addr.bytes n length inside]
    simp only [same, length, decide_true, Bool.true_and, true_and]
  · have other : ¬ addr.family = client.family := fun reversed => same reversed.symm
    simp only [same, other, decide_false, Bool.false_and, Bool.false_eq_true, false_and]

theorem added_entries (platform : Platform) (keyword : IPList) (calls : List NetCall) (config : ServerConfig) :
    (addCalls platform config calls).ips keyword =
      (calls.filterMap (NetCall.entry platform keyword)).reverse ++ config.ips keyword := by
  induction calls generalizing config with
  | nil => rfl
  | cons call rest ih =>
      have step : addCalls platform config (call :: rest) = addCalls platform (addCall platform config call) rest := rfl
      have one : (addCall platform config call).ips keyword = (call.entry platform keyword).toList ++ config.ips keyword := by
        rw [addCall, NetCall.entry]
        cases parsed : parseIPNet platform.tryParseAddress call.network call.limitStr with
        | none =>
            rw [ite_self]
            rfl
        | some net =>
            by_cases same : call.keyword = keyword
            · rw [if_pos same, ← same]
              exact Function.update_self call.keyword _ _
            · rw [if_neg same]
              exact Function.update_of_ne (fun reversed => same reversed.symm) _ _
      rw [step, ih, one, List.filterMap_cons]
      cases call.entry platform keyword with
      | none => rfl
      | some net => simp

theorem latest_found (platform : Platform) (keyword : IPList) (calls : List NetCall) (config : ServerConfig)
    (empty : config.ips keyword = []) (client : IPAddress) :
    (∃ entry, findMatchingIP ((addCalls platform config calls).ips keyword) client = some entry ∧
        Latest platform keyword client calls entry) ∨
      findMatchingIP ((addCalls platform config calls).ips keyword) client = none ∧
        ∀ call ∈ calls, ∀ entry, call.entry platform keyword = some entry → entry.matches client = false := by
  rw [added_entries, empty, List.append_nil]
  cases found : findMatchingIP (calls.filterMap (NetCall.entry platform keyword)).reverse client with
  | none =>
      refine Or.inr ⟨rfl, fun call member entry isEntry => ?_⟩
      have none := List.find?_eq_none.mp found entry (List.mem_reverse.mpr (List.mem_filterMap.mpr ⟨call, member, isEntry⟩))
      rwa [Bool.not_eq_true] at none
  | some entry =>
      obtain ⟨isMatch, later, earlier, split, misses⟩ := List.find?_eq_some_iff_append.mp found
      have order : calls.filterMap (NetCall.entry platform keyword) = earlier.reverse ++ (entry :: later.reverse) := by
        have reversed := congrArg List.reverse split
        rw [List.reverse_reverse, List.reverse_append, List.reverse_cons, List.append_assoc] at reversed
        exact reversed
      obtain ⟨before, rest, isCalls, _, isRest⟩ := List.filterMap_eq_append_iff.mp order
      obtain ⟨skipped, call, after, rfl, _, isEntry, isAfter⟩ := List.filterMap_eq_cons_iff.mp isRest
      refine Or.inl ⟨entry, rfl, before ++ skipped, call, after, by rw [isCalls, List.append_assoc], isEntry, isMatch,
        fun other member net isNet => ?_⟩
      have inLater : net ∈ later := by
        rw [← List.mem_reverse, ← isAfter]
        exact List.mem_filterMap.mpr ⟨other, member, isNet⟩
      have miss := misses net inLater
      rwa [Bool.not_eq_true'] at miss

-- An entry matches the clients of its network, and the search in a list that AddIPNet has
-- built gives the entry added last among those that match.
theorem network_matching (platform : Platform) :
    (∀ text addr n limitStr, Names platform.tryParseAddress text addr n → addr.WellFormed →
        ∃ entry, parseIPNet platform.tryParseAddress text limitStr = some entry ∧
          ∀ client : IPAddress, client.WellFormed → (entry.matches client = true ↔ SameNetwork n addr client)) ∧
      ∀ keyword calls config client, config.ips keyword = [] →
        (∃ entry, findMatchingIP ((addCalls platform config calls).ips keyword) client = some entry ∧
            Latest platform keyword client calls entry) ∨
          findMatchingIP ((addCalls platform config calls).ips keyword) client = none ∧
            ∀ call ∈ calls, ∀ entry, call.entry platform keyword = some entry → entry.matches client = false := by
  refine ⟨fun text addr n limitStr names wellFormed => ?_,
    fun keyword calls config client empty => latest_found platform keyword calls config empty client⟩
  obtain ⟨entry, parsed, family, network, netmask, _, inside⟩ := named_entry platform.tryParseAddress text addr n names limitStr
  exact ⟨entry, parsed, fun client clientFormed =>
    named_matches addr client n wellFormed clientFormed inside entry family network netmask⟩

def threeNets : List NetCall :=
  [⟨.writeIps, "10.1.0.0/16".toList, none⟩, ⟨.writeIps, "10.0.0.0/9".toList, none⟩, ⟨.writeIps, "10.1.2.3".toList, none⟩]

def tenNet : IPAddress := ⟨.interNetwork, [10, 0, 0, 0], 0⟩

def tenHost : IPAddress := ⟨.interNetwork, [10, 1, 2, 4], 0⟩

theorem ten_net_named : Names quadPlatform.tryParseAddress "10.0.0.0/9".toList tenNet 9 :=
  .bits "10.0.0.0".toList "9".toList tenNet 9 (by decide) (by decide) (by decide) (by decide) (by decide)

theorem network_matching_nine_bits :
    Names quadPlatform.tryParseAddress "10.0.0.0/9".toList tenNet 9 ∧ tenNet.WellFormed ∧ tenHost.WellFormed ∧
      (∃ entry, parseIPNet quadPlatform.tryParseAddress "10.0.0.0/9".toList none = some entry ∧
        (entry.matches tenHost = true ↔ SameNetwork 9 tenNet tenHost)) ∧
      ((∃ entry, findMatchingIP ((addCalls quadPlatform initialConfig threeNets).ips .writeIps) tenHost = some entry ∧
          Latest quadPlatform .writeIps tenHost threeNets entry) ∨
        findMatchingIP ((addCalls quadPlatform initialConfig threeNets).ips .writeIps) tenHost = none ∧
          ∀ call ∈ threeNets, ∀ entry, call.entry quadPlatform .writeIps = some entry → entry.matches tenHost = false) := by
  obtain ⟨entries, searches⟩ := network_matching quadPlatform
  obtain ⟨entry, parsed, exact⟩ := entries "10.0.0.0/9".toList tenNet 9 none ten_net_named rfl
  exact ⟨ten_net_named, rfl, rfl, ⟨entry, parsed, exact tenHost rfl⟩, searches .writeIps threeNets initialConfig tenHost rfl⟩

end RingServer.Config
