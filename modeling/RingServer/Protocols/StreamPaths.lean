import RingServer.Mseed.ArchiveQuery
import RingServer.Protocols.StreamRegex

set_option autoImplicit false

namespace RingServer.SeedLink

open Library MseedArchive

structure Bare (staid : Text) : Prop where
  plain : '*' ∉ staid ∧ '?' ∉ staid
  percent : '%' ∉ staid
  scheme : ¬ "FDSN:".toList <+: staid

def SelectedAlike (stations : List Text) : Prop :=
  ∀ body : Text, '\n' ∉ body →
    (selects (archivePatterns stations) ("FDSN:".toList ++ body) = true ↔ ∃ staid ∈ stations, Picks staid ("FDSN:".toList ++ body))

def likeOf (c : Char) : Wild Char := if c = '%' then .many else .literal c

theorem like_escaped (text : Text) (noBackslash : '\\' ∉ text) : likePattern (escaped text) = text.map likeOf := by
  induction text with
  | nil => rfl
  | cons c text ih =>
      have rest := ih fun isMember => noBackslash (List.mem_cons_of_mem c isMember)
      have apart : c ≠ '\\' := fun same => noBackslash (same ▸ List.mem_cons_self)
      by_cases bar : c = '_'
      · have parts : escaped (c :: text) = '\\' :: '_' :: escaped text := by
          rw [escaped, List.flatMap_cons, if_pos bar]
          rfl
        rw [parts, likePattern, if_pos rfl, rest, List.map_cons, likeOf, if_neg (by rw [bar]; decide), bar]
      · have parts : escaped (c :: text) = c :: escaped text := by
          rw [escaped, List.flatMap_cons, if_neg bar]
          rfl
        have item : likeItem c = likeOf c := by rw [likeItem, likeOf, if_neg bar]
        rw [parts, List.map_cons, ← rest, ← item]
        cases escaped text with
        | nil => rfl
        | cons d more => rw [likePattern, if_neg apart]

theorem selects_stations (stations : List Text) (present : stations ≠ []) (id : Text) :
    selects (archivePatterns stations) id = true ↔
      ∃ staid ∈ stations, like (escaped ("FDSN:".toList ++ (staid ++ ['_', '%']))) id = true := by
  obtain ⟨first, rest, rfl⟩ := List.exists_cons_of_ne_nil present
  have patterns : archivePatterns (first :: rest) =
      (first :: rest).map fun staid => "FDSN:".toList ++ (staid ++ ['_', '%']) := rfl
  rw [selects, patterns, List.any_map, List.map_cons]
  have notEmpty (pattern : Text) (more : List Text) : (pattern :: more).isEmpty = false := rfl
  have notAll : ((("FDSN:".toList ++ (first ++ ['_', '%'])) ::
      rest.map fun staid => "FDSN:".toList ++ (staid ++ ['_', '%'])) == [['%']]) = false := by
    rw [beq_eq_false_iff_ne]
    intro same
    have head := (List.cons.inj same).1
    exact absurd (List.cons.inj head).1 (by decide)
  rw [notEmpty, notAll, Bool.false_or, Bool.false_or, List.any_eq_true]
  rfl

theorem like_station (staid body : Text) (plain : Plain staid) :
    like (escaped ("FDSN:".toList ++ (staid ++ ['_', '%']))) ("FDSN:".toList ++ body) = true ↔
      ∃ code behind, body = code ++ '_' :: behind ∧ wildMatches (fun _ => true) (staid.map likeOf) code = true := by
  have noBackslash : '\\' ∉ "FDSN:".toList ++ (staid ++ ['_', '%']) := by
    rw [List.mem_append, List.mem_append, not_or, not_or]
    exact ⟨by decide, fun isMember => plain _ isMember (by decide), by decide⟩
  have scheme : "FDSN:".toList.map likeOf = "FDSN:".toList.map Wild.literal := rfl
  rw [like, like_escaped _ noBackslash, List.map_append, scheme, matches_append]
  simp only [matches_literals, List.map_append]
  constructor
  · rintro ⟨_, rest, same, rfl, found⟩
    rw [← List.append_cancel_left same, matches_append] at found
    obtain ⟨code, _, rfl, isCode, last⟩ := found
    rw [show ['_', '%'].map likeOf = [.literal '_', .many] from rfl, matches_literal] at last
    obtain ⟨behind, rfl, _⟩ := last
    exact ⟨code, behind, rfl, isCode⟩
  · rintro ⟨code, behind, rfl, isCode⟩
    refine ⟨_, _, rfl, rfl, (matches_append _ _ _ _).mpr ⟨code, '_' :: behind, rfl, isCode, ?_⟩⟩
    rw [show ['_', '%'].map likeOf = [.literal '_', .many] from rfl, matches_literal]
    refine ⟨behind, rfl, (matches_many _ _ _).mpr ⟨behind, [], (List.append_nil _).symm, fun _ _ => rfl, rfl⟩⟩

theorem wild_literals (staid : Text) (plain : '*' ∉ staid ∧ '?' ∉ staid) : wildcard staid = staid.map .literal := by
  refine List.map_congr_left fun c isMember => ?_
  have notOne : c ≠ '?' := fun same => plain.2 (same ▸ isMember)
  have notMany : c ≠ '*' := fun same => plain.1 (same ▸ isMember)
  rw [wildOf, if_neg notOne, if_neg notMany]

theorem like_literals (staid : Text) (percent : '%' ∉ staid) : staid.map likeOf = staid.map .literal := by
  refine List.map_congr_left fun c isMember => ?_
  have apart : c ≠ '%' := fun same => percent (same ▸ isMember)
  rw [likeOf, if_neg apart]

-- Without its own scheme in front, the codes of a station do not reach into the scheme
-- of a stream ID.
theorem scheme_apart (staid body behind : Text) (scheme : ¬ "FDSN:".toList <+: staid) :
    "FDSN:".toList ++ body ≠ staid ++ '_' :: behind := by
  intro same
  have first : "FDSN:".toList <+: staid ++ '_' :: behind := ⟨body, same⟩
  have second : staid ++ ['_'] <+: staid ++ '_' :: behind := ⟨behind, by rw [List.append_assoc, List.singleton_append]⟩
  cases List.prefix_or_prefix_of_prefix first second with
  | inl inside =>
      cases List.prefix_concat_iff.mp inside with
      | inl whole =>
          have ends := congrArg List.getLast? whole
          rw [List.getLast?_concat] at ends
          exact absurd ends (by decide)
      | inr inner => exact scheme inner
  | inr inside =>
      have isMember : '_' ∈ "FDSN:".toList := inside.subset (List.mem_append_right staid List.mem_cons_self)
      exact absurd isMember (by decide)

theorem picks_bare (staid body : Text) (bare : Bare staid) (noFeed : '\n' ∉ body) :
    Picks staid ("FDSN:".toList ++ body) ↔ ∃ behind, body = staid ++ '_' :: behind := by
  have literals (code : Text) : wildMatches Regex.point (wildcard staid) code = true ↔ code = staid := by
    rw [wild_literals staid bare.plain, matches_literals]
  constructor
  · rintro ⟨scheme, code, behind, ending, same, isScheme, isCode, _, isEnding⟩
    rw [(literals code).mp isCode] at same
    rcases isScheme with rfl | rfl
    · rw [List.nil_append, List.append_assoc, List.cons_append] at same
      exact absurd same (scheme_apart staid body _ bare.scheme)
    · rw [List.append_assoc, List.append_assoc, List.cons_append] at same
      exact ⟨behind ++ ending, List.append_cancel_left same⟩
  · rintro ⟨behind, rfl⟩
    refine ⟨_, staid, behind, [], (List.append_nil _).symm, .inr rfl, (literals staid).mpr rfl, fun isMember => ?_, .inl rfl⟩
    exact noFeed (List.mem_append_right staid (List.mem_cons_of_mem '_' isMember))

theorem bare_alike (stations : List Text) (present : stations ≠ []) (plain : ∀ staid ∈ stations, Plain staid)
    (bare : ∀ staid ∈ stations, Bare staid) : SelectedAlike stations := by
  intro body noFeed
  rw [selects_stations stations present]
  refine exists_congr fun staid => and_congr_right fun isMember => ?_
  rw [like_station staid body (plain staid isMember), picks_bare staid body (bare staid isMember) noFeed,
    like_literals staid (bare staid isMember).percent]
  simp only [matches_literals]
  constructor
  · rintro ⟨_, behind, rfl, rfl⟩
    exact ⟨behind, rfl⟩
  · rintro ⟨behind, same⟩
    exact ⟨staid, behind, same, rfl⟩

def lettered (away : List Char) (c : Char) : Char := if c ∈ away then 'x' else c

theorem lettered_free (away : List Char) (noX : 'x' ∉ away) (text : Text) (d : Char) (isAway : d ∈ away) :
    d ∉ text.map (lettered away) := by
  rw [List.mem_map]
  rintro ⟨c, _, same⟩
  rw [lettered] at same
  split at same
  · exact noX (same ▸ isAway)
  · rename_i other
    exact other (same ▸ isAway)

theorem alike_one (staid body : Text) (plain : Plain staid) (noFeed : '\n' ∉ body) (alike : SelectedAlike [staid]) :
    (∃ code behind, body = code ++ '_' :: behind ∧ wildMatches (fun _ => true) (staid.map likeOf) code = true) ↔
      Picks staid ("FDSN:".toList ++ body) := by
  have both := alike body noFeed
  rw [selects_stations [staid] (List.cons_ne_nil _ _)] at both
  simp only [List.mem_singleton, exists_eq_left] at both
  rw [← like_station staid body plain]
  exact both

theorem lettered_feed (away : List Char) (text : Text) (noFeed : '\n' ∉ text) : '\n' ∉ text.map (lettered away) ++ ['_'] := by
  rw [List.mem_append, not_or, List.mem_map]
  refine ⟨?_, by decide⟩
  rintro ⟨c, isMember, same⟩
  rw [lettered] at same
  split at same
  · exact absurd same (by decide)
  · exact noFeed (same ▸ isMember)

theorem lettered_apart (away : List Char) (noX : 'x' ∉ away) (text : Text) (d : Char) (isAway : d ∈ away) (notBar : d ≠ '_') :
    d ∉ text.map (lettered away) ++ ['_'] := by
  rw [List.mem_append, not_or, List.mem_singleton]
  exact ⟨lettered_free away noX text d isAway, notBar⟩

theorem alike_plain (staid : Text) (plain : Plain staid) (noFeed : '\n' ∉ staid) (alike : SelectedAlike [staid]) (d : Char)
    (isWildcard : d ∈ ['*', '?']) : d ∉ staid := by
  intro isMember
  have free := lettered_apart ['*', '?'] (by decide) staid d isWildcard (by rintro rfl; revert isWildcard; decide)
  have literal : .literal d ∈ staid.map likeOf := by
    refine List.mem_map.mpr ⟨d, isMember, ?_⟩
    rw [likeOf, if_neg (by rintro rfl; revert isWildcard; decide)]
  have each : ∀ c ∈ staid, wildMatches Regex.point [wildOf c] [lettered ['*', '?'] c] = true := by
    intro c _
    by_cases one : c = '?'
    · rw [one]
      decide
    by_cases many : c = '*'
    · rw [many]
      decide
    have itself : lettered ['*', '?'] c = c := if_neg (by simp only [List.mem_cons, List.not_mem_nil, or_false, not_or]; exact ⟨many, one⟩)
    rw [itself, wildOf, if_neg one, if_neg many]
    exact (matches_literals Regex.point [c] [c]).mpr rfl
  have picked : Picks staid ("FDSN:".toList ++ (staid.map (lettered ['*', '?']) ++ ['_'])) :=
    ⟨_, _, [], [], (List.append_nil _).symm, .inr rfl, matches_each Regex.point wildOf _ staid each, List.not_mem_nil, .inl rfl⟩
  obtain ⟨code, behind, same, isCode⟩ := (alike_one staid _ plain (lettered_feed _ staid noFeed) alike).mpr picked
  rw [same] at free
  exact free (List.mem_append_left _ (matches_member _ _ code d literal isCode))

theorem alike_percent (staid : Text) (plain : Plain staid) (noFeed : '\n' ∉ staid) (alike : SelectedAlike [staid]) : '%' ∉ staid := by
  intro isMember
  have free := lettered_apart ['%'] (by decide) staid '%' List.mem_cons_self (by decide)
  have literal : .literal '%' ∈ wildcard staid := List.mem_map.mpr ⟨'%', isMember, rfl⟩
  have each : ∀ c ∈ staid, wildMatches (fun _ => true) [likeOf c] [lettered ['%'] c] = true := by
    intro c _
    by_cases percent : c = '%'
    · rw [percent]
      decide
    have itself : lettered ['%'] c = c := if_neg (by rw [List.mem_singleton]; exact percent)
    rw [itself, likeOf, if_neg percent]
    exact (matches_literals _ [c] [c]).mpr rfl
  obtain ⟨scheme, code, behind, ending, same, isScheme, isCode, _, _⟩ := (alike_one staid _ plain (lettered_feed _ staid noFeed) alike).mp
    ⟨_, [], rfl, matches_each _ likeOf _ staid each⟩
  have inside : '%' ∈ "FDSN:".toList ++ (staid.map (lettered ['%']) ++ ['_']) := by
    rw [same]
    refine List.mem_append_left _ (List.mem_append_right _ (List.mem_append_left _ ?_))
    exact matches_member _ _ code '%' literal isCode
  cases List.mem_append.mp inside with
  | inl scheme => exact absurd scheme (by decide)
  | inr body => exact free body

theorem alike_scheme (staid : Text) (plain : Plain staid) (noFeed : '\n' ∉ staid) (alike : SelectedAlike [staid])
    (noWildcard : '*' ∉ staid ∧ '?' ∉ staid) (percent : '%' ∉ staid) : ¬ "FDSN:".toList <+: staid := by
  rintro ⟨rest, rfl⟩
  have feed : '\n' ∉ rest ++ ['_'] := by
    rw [List.mem_append, not_or] at noFeed ⊢
    exact ⟨noFeed.2, by decide⟩
  have isCode : wildMatches Regex.point (wildcard ("FDSN:".toList ++ rest)) ("FDSN:".toList ++ rest) = true := by
    rw [wild_literals _ noWildcard, matches_literals]
  have picked : Picks ("FDSN:".toList ++ rest) ("FDSN:".toList ++ (rest ++ ['_'])) := by
    refine ⟨[], _, [], [], ?_, .inl rfl, isCode, List.not_mem_nil, .inl rfl⟩
    rw [List.append_nil, List.nil_append, List.append_assoc]
  obtain ⟨code, behind, same, found⟩ := (alike_one _ _ plain feed alike).mpr picked
  rw [like_literals _ percent, matches_literals] at found
  have lengths := congrArg List.length same
  simp only [found, List.length_append, List.length_cons, List.length_nil] at lengths
  have five : "FDSN:".toList.length = 5 := rfl
  omega

end RingServer.SeedLink
