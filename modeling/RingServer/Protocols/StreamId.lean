import RingServer.Protocols.DataLinkProtocol

set_option autoImplicit false

namespace RingServer.DataLink

open Library

-- Network, station, location and channel of a stream ID, where an FDSN identifier
-- has the letters of the channel apart.
def sourceCodes (streamId : Text) : List Text :=
  let codes := if streamId.take 5 = "FDSN:".toList then streamId.drop 5 else streamId
  match codes.splitOnP (· = '_') with
  | [net, sta, loc, band, source, subsource] => [net, sta, loc, band ++ source ++ subsource]
  | fields => fields

example : sourceCodes "IU_ANMO_00_BHZ/MSEED".toList = sourceCodes "FDSN:IU_ANMO_00_B_H_Z/MSEED".toList := by decide

def legacyCodes (net sta loc : Text) (band source : Char) (subsource : Text) : Text :=
  net ++ '_' :: (sta ++ '_' :: (loc ++ '_' :: band :: source :: subsource))

def Bare (text : Text) : Prop := ∀ c ∈ text, (decide (c = '_')) = false ∧ c ≠ ':'

theorem codes_bare (text : Text) (codes : text.all isCode = true) : Bare text := by
  intro c member
  have code := List.all_eq_true.mp codes c member
  constructor
  · apply decide_eq_false
    rintro rfl
    exact absurd code (by decide)
  · rintro rfl
    exact absurd code (by decide)

theorem bare_of_all (text : Text) (all : (text.all fun c => c ≠ '_' && c ≠ ':') = true) : Bare text := by
  intro c member
  simpa using List.all_eq_true.mp all c member

theorem bare_append (first second : Text) (before : Bare first) (after : Bare second) : Bare (first ++ second) := by
  intro c member
  cases List.mem_append.mp member with
  | inl inside => exact before c inside
  | inr inside => exact after c inside

theorem split_four (text net sta loc chan : Text) (split : text.splitOnP (fun c => c = '_') = [net, sta, loc, chan]) :
    text = net ++ '_' :: (sta ++ '_' :: (loc ++ '_' :: chan)) := by
  have whole : ['_'].intercalate (text.splitOn '_') = text := List.intercalate_splitOn '_'
  have same : text.splitOn '_' = text.splitOnP fun c => c = '_' := by
    rw [List.splitOn_eq_splitOnP]
    rfl
  rw [same, split] at whole
  rw [← whole]
  simp [List.intercalate_cons_of_ne_nil]

theorem legacy_fields (streamId : Text) (legacy : isLegacyStreamId streamId = true) :
    ∃ net sta loc band source subsource rest, streamId = legacyCodes net sta loc band source (subsource :: rest) ∧
      Bare net ∧ Bare sta ∧ Bare loc ∧ Bare [band, source] ∧ Bare (subsource :: rest) ∧ rest ≠ [] := by
  rw [isLegacyStreamId] at legacy
  generalize isLine : (if streamId.getLast? = some '\n' then streamId.dropLast else streamId) = line at legacy
  split at legacy
  · rename_i net sta loc chan isSplit
    simp only [Bool.and_eq_true, decide_eq_true_eq] at legacy
    obtain ⟨⟨⟨⟨⟨⟨⟨⟨⟨_, _⟩, netCodes⟩, _⟩, _⟩, staCodes⟩, _⟩, locCodes⟩, suffix⟩, chanCodes⟩ := legacy
    have isText := split_four line net sta loc chan isSplit
    have long : 3 ≤ chan.length := by
      by_contra short
      rw [List.drop_eq_nil_of_le (by omega)] at suffix
      cases suffix
    obtain ⟨band, source, subsource, rest, isChan⟩ : ∃ band source subsource rest, chan = band :: source :: subsource :: rest := by
      match chan, long with
      | band :: source :: subsource :: rest, _ => exact ⟨band, source, subsource, rest, rfl⟩
    rw [isChan] at suffix chanCodes isText
    have isRest : rest = "/MSEED".toList := suffix
    have letters : Bare [band, source, subsource] := codes_bare _ chanCodes
    have first : Bare [band, source] := fun c member => letters c (by simp at member ⊢; tauto)
    have suffixBare : Bare "/MSEED".toList := bare_of_all _ rfl
    have third : Bare (subsource :: rest) := by
      rw [isRest]
      exact bare_append [subsource] _ (fun c member => letters c (by simp at member ⊢; tauto)) suffixBare
    by_cases feed : streamId.getLast? = some '\n'
    · rw [if_pos feed] at isLine
      have whole : streamId = line ++ ['\n'] := by
        rw [← isLine]
        exact (List.dropLast_append_getLast? _ feed).symm
      refine ⟨net, sta, loc, band, source, subsource, rest ++ ['\n'], ?_, codes_bare _ netCodes, codes_bare _ staCodes,
        codes_bare _ locCodes, first, ?_, by simp⟩
      · rw [whole, isText, legacyCodes]
        simp only [List.append_assoc, List.cons_append]
      · exact bare_append (subsource :: rest) _ third (bare_of_all _ rfl)
    · rw [if_neg feed] at isLine
      refine ⟨net, sta, loc, band, source, subsource, rest, isLine.trans isText, codes_bare _ netCodes, codes_bare _ staCodes,
        codes_bare _ locCodes, first, third, ?_⟩
      rw [isRest]
      decide
  · cases legacy

theorem rtake_while_behind (before after : Text) (plain : Bare after) :
    (before ++ '_' :: after).rtakeWhile (· ≠ '_') = after := by
  have all : ∀ c ∈ after.reverse, decide (c ≠ '_') = true := by
    intro c member
    have different := of_decide_eq_false (plain c (List.mem_reverse.mp member)).1
    exact decide_eq_true different
  rw [List.rtakeWhile, List.reverse_append, List.reverse_cons, List.append_assoc, List.takeWhile_append_of_pos all,
    List.singleton_append, List.takeWhile_cons_of_neg (by decide), List.append_nil, List.reverse_reverse]

theorem legacy_canonical (net sta loc : Text) (band source subsource : Char) (rest : Text) (letters : Bare [band, source])
    (last : Bare (subsource :: rest)) (some : rest ≠ []) :
    toFDSN (legacyCodes net sta loc band source (subsource :: rest)) =
      "FDSN:".toList ++ (net ++ '_' :: (sta ++ '_' :: (loc ++ '_' :: ([band] ++ '_' :: ([source] ++ '_' :: (subsource :: rest)))))) := by
  have isText : legacyCodes net sta loc band source (subsource :: rest) =
      (net ++ '_' :: (sta ++ '_' :: loc)) ++ '_' :: (band :: source :: subsource :: rest) := by
    simp only [legacyCodes, List.append_assoc, List.cons_append]
  have chan : Bare (band :: source :: subsource :: rest) := bare_append [band, source] _ letters last
  have length : 0 < rest.length := List.length_pos_iff.mpr some
  have before : (net ++ '_' :: (sta ++ '_' :: loc) ++ '_' :: (band :: source :: subsource :: rest)).take
      ((net ++ '_' :: (sta ++ '_' :: loc) ++ '_' :: (band :: source :: subsource :: rest)).length -
        (band :: source :: subsource :: rest).length - 1) = net ++ '_' :: (sta ++ '_' :: loc) := by
    apply List.take_left'
    simp only [List.length_append, List.length_cons]
    omega
  rw [isText, toFDSN]
  rw [rtake_while_behind _ _ chan, before, if_pos ⟨by simp only [List.length_append, List.length_cons]; omega,
    by simp only [List.length_cons]; omega⟩]
  simp

theorem split_field (field rest : Text) (plain : Bare field) :
    (field ++ '_' :: rest).splitOnP (fun c => c = '_') = field :: rest.splitOnP fun c => c = '_' :=
  List.splitOnP_append_cons_of_forall_mem (fun c member => (plain c member).1) '_' (by decide) rest

theorem split_last (field : Text) (plain : Bare field) : field.splitOnP (fun c => c = '_') = [field] :=
  List.splitOnP_eq_singleton fun c member => (plain c member).1

theorem canonical_source (streamId : Text) : sourceCodes (canonicalStreamId streamId) = sourceCodes streamId := by
  rw [canonicalStreamId]
  by_cases legacy : isLegacyStreamId streamId = true
  · obtain ⟨net, sta, loc, band, source, subsource, rest, rfl, netBare, staBare, locBare, letters, last, some⟩ :=
      legacy_fields streamId legacy
    have one : Bare [band] := fun c member => letters c (List.mem_cons.mpr (Or.inl (List.mem_singleton.mp member)))
    have two : Bare [source] := fun c member => letters c (List.mem_cons_of_mem _ member)
    have chan : Bare (band :: source :: subsource :: rest) := bare_append [band, source] _ letters last
    have noScheme : ¬ (legacyCodes net sta loc band source (subsource :: rest)).take 5 = "FDSN:".toList := by
      intro scheme
      have colon : ':' ∈ (legacyCodes net sta loc band source (subsource :: rest)).take 5 := by
        rw [scheme]
        decide
      have member := List.mem_of_mem_take colon
      simp only [legacyCodes, List.mem_append, List.mem_cons] at member
      have not : ∀ text : Text, Bare text → ':' ∉ text := fun text plain inside => (plain ':' inside).2 rfl
      have notNet := not net netBare
      have notSta := not sta staBare
      have notLoc := not loc locBare
      have notChan := not _ chan
      simp only [List.mem_cons] at notChan
      have underscore : ¬ (':' = '_') := by decide
      tauto
    rw [if_pos legacy, legacy_canonical net sta loc band source subsource rest letters last some, sourceCodes, sourceCodes]
    have scheme : ∀ text : Text, ("FDSN:".toList ++ text).take 5 = "FDSN:".toList ∧ ("FDSN:".toList ++ text).drop 5 = text :=
      fun text => ⟨rfl, rfl⟩
    rw [if_pos (scheme _).1, (scheme _).2, if_neg noScheme, legacyCodes, split_field net _ netBare, split_field sta _ staBare,
      split_field loc _ locBare, split_field [band] _ one, split_field [source] _ two, split_last _ last, split_field net _ netBare,
      split_field sta _ staBare, split_field loc _ locBare, split_last _ chan]
    rfl
  · rw [if_neg legacy]

end RingServer.DataLink
