import RingServer.Ring.RingTypes

set_option autoImplicit false

namespace RingServer.Net

inductive ClientType where
  | dataLink
  | seedLink
  | http
deriving DecidableEq

structure ListenProtocols where
  dataLink : Bool
  seedLink : Bool
  http : Bool

def allProtocols : ListenProtocols := ⟨true, true, true⟩

inductive Look where
  | undetermined
  | becomes (type : ClientType)
  | breaks
deriving DecidableEq

def isHttpMethod (s : Text) : Bool :=
  match s with
  | a :: b :: c :: _ =>
      (a = 'G' && b = 'E' && c = 'T') || (a = 'H' && b = 'E' && c = 'A') || (a = 'P' && b = 'O' && c = 'S') ||
        (a = 'P' && b = 'U' && c = 'T') || (a = 'D' && b = 'E' && c = 'L') || (a = 'T' && b = 'R' && c = 'A') ||
        (a = 'C' && b = 'O' && c = 'N')
  | _ => false

def isDataLinkCommand (peekStr : Text) : Bool :=
  match peekStr with
  | a :: b :: _ =>
      (a = 'D' && b = 'L') || (a = 'I' && b = 'D') || (a = 'C' && b = 'A') || (a = 'S' && b = 'T') || (a = 'E' && b = 'N') ||
        (a = 'B' && b = 'Y')
  | _ => false

-- peeked is what PeekData gives, three bytes at most.
def determineType (protocols : ListenProtocols) (peeked : List UInt8) : Look :=
  if protocols.dataLink && !protocols.seedLink && !protocols.http then .becomes .dataLink
  else if protocols.seedLink && !protocols.dataLink && !protocols.http then .becomes .seedLink
  else if protocols.http && !protocols.dataLink && !protocols.seedLink then .becomes .http
  else if 2 ≤ peeked.length then
    let peekStr := decodeASCII peeked
    if protocols.dataLink && isDataLinkCommand peekStr then .becomes .dataLink
    else if decide (3 ≤ peeked.length) && protocols.http && isHttpMethod (peekStr.take 3) then .becomes .http
    else if protocols.seedLink then .becomes .seedLink
    else if protocols.dataLink then .becomes .dataLink
    else .breaks
  else .undetermined

def detectType (protocols : ListenProtocols) (stream : List UInt8) : List Nat → Look
  | [] => .undetermined
  | arrived :: later =>
      match determineType protocols (stream.take (min arrived 3)) with
      | .undetermined => detectType protocols stream later
      | look => look

-- What the first bytes of a stream stand for.
def protocolOf (stream : List UInt8) : ClientType :=
  if stream.take 2 = [68, 76] then .dataLink
  else if isHttpMethod (decodeASCII (stream.take 3)) then .http
  else .seedLink

-- The first two letters that are taken for DataLink although they begin no frame: ID,
-- CA, ST, EN and BY.
def seedLinkWords : List (List UInt8) := [[73, 68], [67, 65], [83, 84], [69, 78], [66, 89]]

-- The look that decides has all of a method, and no word for DataLink.
def Detectable (stream : List UInt8) (arrived : Nat) : Prop :=
  stream.take 2 ∉ seedLinkWords ∧ (isHttpMethod (decodeASCII (stream.take 3)) = true → 3 ≤ arrived)

theorem data_link_command_iff (a b : UInt8) (behind : List UInt8) :
    isDataLinkCommand (decodeASCII (a :: b :: behind)) = true ↔ [a, b] = [68, 76] ∨ [a, b] ∈ seedLinkWords := by
  have pair (c d : Char) (c' d' : UInt8) (letters : (c.toNat < 128 ∧ c ≠ '?') ∧ d.toNat < 128 ∧ d ≠ '?')
      (bytes : UInt8.ofNat c.toNat = c' ∧ UInt8.ofNat d.toNat = d') :
      ((if a.toNat < 128 then Char.ofNat a.toNat else '?') = c ∧ (if b.toNat < 128 then Char.ofNat b.toNat else '?') = d) ↔
        [a, b] = [c', d'] := by
    rw [decoded_char a c letters.1.1 letters.1.2, decoded_char b d letters.2.1 letters.2.2, bytes.1, bytes.2]
    simp
  simp only [isDataLinkCommand, decodeASCII, List.map_cons, Bool.or_eq_true, Bool.and_eq_true, decide_eq_true_iff, seedLinkWords,
    List.mem_cons, List.not_mem_nil, or_false]
  rw [pair 'D' 'L' 68 76 (by decide) (by decide), pair 'I' 'D' 73 68 (by decide) (by decide),
    pair 'C' 'A' 67 65 (by decide) (by decide), pair 'S' 'T' 83 84 (by decide) (by decide),
    pair 'E' 'N' 69 78 (by decide) (by decide), pair 'B' 'Y' 66 89 (by decide) (by decide)]
  tauto

theorem marker_no_method (behind : List UInt8) : isHttpMethod (decodeASCII (68 :: 76 :: behind)) = false := by
  cases behind with
  | nil => decide
  | cons c rest =>
      have letters : decodeASCII (68 :: 76 :: c :: rest) = 'D' :: 'L' :: decodeASCII (c :: rest) := rfl
      have third : ∃ d behind, decodeASCII (c :: rest) = d :: behind := ⟨_, _, rfl⟩
      obtain ⟨d, behind, isThird⟩ := third
      rw [letters, isThird]
      simp [isHttpMethod]

theorem determine_all (a b : UInt8) (behind : List UInt8) :
    determineType allProtocols (a :: b :: behind) =
      if isDataLinkCommand (decodeASCII (a :: b :: behind)) then .becomes .dataLink
      else if decide (3 ≤ (a :: b :: behind).length) && isHttpMethod ((decodeASCII (a :: b :: behind)).take 3) then .becomes .http
      else .becomes .seedLink := by
  simp only [determineType, allProtocols, Bool.not_true, Bool.and_false, Bool.false_eq_true, if_false, if_true, List.length_cons,
    Nat.le_add_left, Bool.true_and, Bool.and_true]

theorem early_looks (protocols : ListenProtocols) (several : protocols = allProtocols) (peeked : List UInt8)
    (short : peeked.length < 2) : determineType protocols peeked = .undetermined := by
  rw [several, determineType, if_neg (by decide), if_neg (by decide), if_neg (by decide), if_neg (Nat.not_le_of_lt short)]

theorem two_bytes (bytes : List UInt8) (two : 2 ≤ bytes.length) : ∃ a b behind, bytes = a :: b :: behind := by
  rcases bytes with _ | ⟨a, _ | ⟨b, behind⟩⟩
  · exact absurd two (by decide)
  · exact absurd two (by simp)
  · exact ⟨a, b, behind, rfl⟩

theorem detect_first (stream : List UInt8) (long : 3 ≤ stream.length) (looks : List Nat) (arrived : Nat)
    (first : looks.find? (2 ≤ ·) = some arrived) :
    detectType allProtocols stream looks = determineType allProtocols (stream.take (min arrived 3)) := by
  induction looks with
  | nil => cases first
  | cons look later ih =>
      rw [List.find?_cons] at first
      rw [detectType]
      by_cases enough : 2 ≤ look
      · rw [decide_eq_true enough] at first
        obtain rfl := Option.some.inj first
        have two : 2 ≤ (stream.take (min look 3)).length := by
          rw [List.length_take]
          omega
        obtain ⟨a, b, behind, isPeeked⟩ := two_bytes _ two
        rw [isPeeked, determine_all]
        split
        · rename_i undetermined
          split at undetermined
          · cases undetermined
          · split at undetermined <;> cases undetermined
        · rfl
      · rw [decide_eq_false enough] at first
        rw [early_looks allProtocols rfl _ (by rw [List.length_take]; omega)]
        exact ih first

-- On a port of all protocols the session becomes what its stream stands for exactly
-- when the stream is Detectable.
theorem detection_correct (stream : List UInt8) (long : 3 ≤ stream.length) (looks : List Nat) (arrived : Nat)
    (first : looks.find? (2 ≤ ·) = some arrived) :
    detectType allProtocols stream looks = .becomes (protocolOf stream) ↔ Detectable stream arrived := by
  have enough : 2 ≤ arrived := by simpa using List.find?_some first
  rw [detect_first stream long looks arrived first]
  obtain ⟨a, b, _ | ⟨c, rest⟩, rfl⟩ := two_bytes stream (Nat.le_of_succ_le long)
  · exact absurd long (by simp)
  have peeked : ∃ behind, (a :: b :: c :: rest).take (min arrived 3) = a :: b :: behind ∧
      (decide (3 ≤ (a :: b :: behind).length) && isHttpMethod ((decodeASCII (a :: b :: behind)).take 3)) =
        (decide (3 ≤ arrived) && isHttpMethod (decodeASCII [a, b, c])) := by
    by_cases all : 3 ≤ arrived
    · have three : min arrived 3 = 3 := Nat.min_eq_right all
      refine ⟨[c], by rw [three]; rfl, ?_⟩
      rw [decide_eq_true all]
      rfl
    · have two : min arrived 3 = 2 := by omega
      refine ⟨[], by rw [two]; rfl, ?_⟩
      rw [decide_eq_false all]
      rfl
  obtain ⟨behind, isPeeked, method⟩ := peeked
  have dataLink := data_link_command_iff a b behind
  have whole : protocolOf (a :: b :: c :: rest) = if [a, b] = [68, 76] then .dataLink
      else if isHttpMethod (decodeASCII [a, b, c]) then .http else .seedLink := rfl
  have condition : Detectable (a :: b :: c :: rest) arrived ↔
      [a, b] ∉ seedLinkWords ∧ (isHttpMethod (decodeASCII [a, b, c]) = true → 3 ≤ arrived) := Iff.rfl
  rw [isPeeked, determine_all, method, whole, condition]
  by_cases marker : [a, b] = [68, 76]
  · have noMethod : isHttpMethod (decodeASCII [a, b, c]) = false := by
      cases marker
      exact marker_no_method [c]
    have noWord : [a, b] ∉ seedLinkWords := by
      rw [marker]
      decide
    rw [if_pos (dataLink.mpr (Or.inl marker)), if_pos marker, noMethod]
    exact ⟨fun _ => ⟨noWord, fun impossible => absurd impossible Bool.false_ne_true⟩, fun _ => rfl⟩
  rw [if_neg marker]
  by_cases word : [a, b] ∈ seedLinkWords
  · rw [if_pos (dataLink.mpr (Or.inr word))]
    refine ⟨fun same => ?_, fun detectable => absurd word detectable.1⟩
    split at same <;> cases same
  · have noCommand : ¬ isDataLinkCommand (decodeASCII (a :: b :: behind)) = true := by
      rw [dataLink]
      exact fun either => either.elim marker word
    rw [if_neg noCommand]
    by_cases http : isHttpMethod (decodeASCII [a, b, c]) = true
    · by_cases all : 3 ≤ arrived
      · rw [decide_eq_true all, http]
        exact ⟨fun _ => ⟨word, fun _ => all⟩, fun _ => rfl⟩
      · rw [decide_eq_false all, http]
        exact ⟨fun same => absurd same (by decide), fun detectable => absurd (detectable.2 rfl) all⟩
    · rw [eq_false_of_ne_true http, Bool.and_false]
      exact ⟨fun _ => ⟨word, fun impossible => absurd impossible Bool.false_ne_true⟩, fun _ => rfl⟩

theorem detection_correct_hello :
    detectType allProtocols [72, 69, 76, 76, 79, 13, 10] [1, 2] = .becomes (protocolOf [72, 69, 76, 76, 79, 13, 10]) ↔
      Detectable [72, 69, 76, 76, 79, 13, 10] 2 :=
  detection_correct [72, 69, 76, 76, 79, 13, 10] (by decide) [1, 2] 2 rfl

-- STATION of SeedLink is taken for DataLink, and so is GET for SeedLink while two of
-- its letters have arrived.
theorem detection_misses :
    detectType allProtocols ([83, 84, 65, 84, 73, 79, 78] ++ [13, 10]) [9] = .becomes .dataLink ∧
      protocolOf ([83, 84, 65, 84, 73, 79, 78] ++ [13, 10]) = .seedLink ∧
      detectType allProtocols [71, 69, 84, 32, 47, 13, 10] [2, 7] = .becomes .seedLink ∧
      detectType allProtocols [71, 69, 84, 32, 47, 13, 10] [7] = .becomes .http := by
  decide

end RingServer.Net
