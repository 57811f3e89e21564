import Mathlib.Data.List.Basic
import RingServer.Library.Wildcard

set_option autoImplicit false

namespace RingServer.Library

-- An assertion takes no text and sees what is before it and behind it.
inductive Regex (α : Type) where
  | empty
  | one (fits : α → Bool)
  | look (here : List α → List α → Bool)
  | seq (first second : Regex α)
  | either (first second : Regex α)
  | star (body : Regex α)

namespace Regex

section

variable {α : Type}

-- The expression takes the middle of a text, between what is before it and behind it.
inductive Takes : Regex α → List α → List α → List α → Prop where
  | empty (before behind : List α) : Takes .empty before [] behind
  | one (fits : α → Bool) (before behind : List α) (c : α) (fit : fits c = true) : Takes (.one fits) before [c] behind
  | look (here : List α → List α → Bool) (before behind : List α) (holds : here before behind = true) :
      Takes (.look here) before [] behind
  | seq (first second : Regex α) (before a b behind : List α) (left : Takes first before a (b ++ behind))
      (right : Takes second (before ++ a) b behind) : Takes (.seq first second) before (a ++ b) behind
  | left (left right : Regex α) (before middle behind : List α) (takes : Takes left before middle behind) :
      Takes (.either left right) before middle behind
  | right (left right : Regex α) (before middle behind : List α) (takes : Takes right before middle behind) :
      Takes (.either left right) before middle behind
  | stop (body : Regex α) (before behind : List α) : Takes (.star body) before [] behind
  | again (body : Regex α) (before a b behind : List α) (turn : Takes body before a (b ++ behind))
      (rest : Takes (.star body) (before ++ a) b behind) : Takes (.star body) before (a ++ b) behind

def optional (body : Regex α) : Regex α := .either body .empty

def sequence (items : List (Regex α)) : Regex α := items.foldr .seq .empty

-- A turn that takes nothing leads nowhere new.
def repeats (step : List α × List α → List (List α × List α)) : Nat → List α × List α → List (List α × List α)
  | 0, place => [place]
  | n + 1, place => place :: ((step place).filter fun next => next.2.length < place.2.length).flatMap (repeats step n)

def places : Regex α → List α × List α → List (List α × List α)
  | .empty, place => [place]
  | .one fits, place => place.2.head?.elim [] fun c => if fits c then [(place.1 ++ [c], place.2.tail)] else []
  | .look here, place => if here place.1 place.2 then [place] else []
  | .seq first second, place => (places first place).flatMap (places second)
  | .either left right, place => places left place ++ places right place
  | .star body, place => repeats (places body) place.2.length place

-- The search tries every place of the text.
def found (expression : Regex α) (text : List α) : Bool :=
  (List.range (text.length + 1)).any fun k => ! (places expression (text.take k, text.drop k)).isEmpty

theorem takes_empty (before middle behind : List α) : Takes .empty before middle behind ↔ middle = [] := by
  constructor
  · intro takes
    cases takes
    rfl
  · intro nothing
    rw [nothing]
    exact .empty before behind

theorem takes_one (fits : α → Bool) (before middle behind : List α) :
    Takes (.one fits) before middle behind ↔ ∃ c, middle = [c] ∧ fits c = true := by
  constructor
  · intro takes
    cases takes with
    | one _ _ _ c fit => exact ⟨c, rfl, fit⟩
  · intro one
    obtain ⟨c, same, fit⟩ := one
    rw [same]
    exact .one fits before behind c fit

theorem takes_look (here : List α → List α → Bool) (before middle behind : List α) :
    Takes (.look here) before middle behind ↔ middle = [] ∧ here before behind = true := by
  constructor
  · intro takes
    cases takes with
    | look _ _ _ holds => exact ⟨rfl, holds⟩
  · intro look
    rw [look.1]
    exact .look here before behind look.2

theorem takes_seq (first second : Regex α) (before middle behind : List α) : Takes (.seq first second) before middle behind ↔
    ∃ a b, middle = a ++ b ∧ Takes first before a (b ++ behind) ∧ Takes second (before ++ a) b behind := by
  constructor
  · intro takes
    cases takes with
    | seq _ _ _ a b _ left right => exact ⟨a, b, rfl, left, right⟩
  · intro parts
    obtain ⟨a, b, same, left, right⟩ := parts
    rw [same]
    exact .seq first second before a b behind left right

theorem takes_either (left right : Regex α) (before middle behind : List α) :
    Takes (.either left right) before middle behind ↔ Takes left before middle behind ∨ Takes right before middle behind := by
  constructor
  · intro takes
    cases takes with
    | left _ _ _ _ _ takes => exact .inl takes
    | right _ _ _ _ _ takes => exact .inr takes
  · intro side
    cases side with
    | inl takes => exact .left left right before middle behind takes
    | inr takes => exact .right left right before middle behind takes

theorem takes_optional (body : Regex α) (before middle behind : List α) :
    Takes (optional body) before middle behind ↔ Takes body before middle behind ∨ middle = [] := by
  rw [optional, takes_either, takes_empty]

theorem takes_star (body : Regex α) (before middle behind : List α) (takes : Takes (.star body) before middle behind) :
    middle = [] ∨ ∃ a b, a ≠ [] ∧ middle = a ++ b ∧ Takes body before a (b ++ behind) ∧ Takes (.star body) (before ++ a) b behind := by
  generalize repetition : Regex.star body = expression at takes
  induction takes with
  | empty | one | look | seq | left | right => exact nomatch repetition
  | stop => exact .inl rfl
  | again _ before a b behind turn rest _ onward =>
      cases repetition
      by_cases nothing : a = []
      · rw [nothing, List.append_nil] at onward
        rw [nothing, List.nil_append]
        exact onward rfl
      · exact .inr ⟨a, b, nothing, rfl, turn, rest⟩

theorem takes_star_one (fits : α → Bool) (before middle behind : List α) :
    Takes (.star (.one fits)) before middle behind ↔ ∀ c ∈ middle, fits c = true := by
  constructor
  · intro takes
    generalize repetition : Regex.star (.one fits) = expression at takes
    induction takes with
    | empty | one | look | seq | left | right => exact nomatch repetition
    | stop => exact fun c isMember => nomatch isMember
    | again _ before a b behind turn _ _ onward =>
        cases repetition
        obtain ⟨c, same, fit⟩ := (takes_one fits _ _ _).mp turn
        intro d isMember
        rw [same, List.singleton_append, List.mem_cons] at isMember
        cases isMember with
        | inl here => rw [here]; exact fit
        | inr later => exact onward rfl d later
  · intro fit
    induction middle generalizing before with
    | nil => exact .stop _ before behind
    | cons c middle ih =>
        exact .again _ before [c] middle behind (.one fits _ _ c (fit c List.mem_cons_self))
          (ih (before ++ [c]) fun d isMember => fit d (List.mem_cons_of_mem c isMember))

theorem takes_sequence_append (front items : List (Regex α)) (before middle behind : List α) :
    Takes (sequence (front ++ items)) before middle behind ↔
      ∃ a b, middle = a ++ b ∧ Takes (sequence front) before a (b ++ behind) ∧ Takes (sequence items) (before ++ a) b behind := by
  induction front generalizing before middle with
  | nil =>
      simp only [List.nil_append, sequence, List.foldr_nil, takes_empty]
      constructor
      · intro takes
        exact ⟨[], middle, rfl, rfl, by rwa [List.append_nil]⟩
      · intro parts
        obtain ⟨a, b, same, nothing, takes⟩ := parts
        rw [nothing, List.append_nil] at takes
        rwa [same, nothing]
  | cons item front ih =>
      simp only [sequence, List.cons_append, List.foldr_cons, takes_seq] at ih ⊢
      constructor
      · intro parts
        obtain ⟨a, rest, same, first, takes⟩ := parts
        obtain ⟨b, c, rfl, second, third⟩ := (ih (before ++ a) rest).mp takes
        refine ⟨a ++ b, c, by rw [same, List.append_assoc], ⟨a, b, rfl, ?_, second⟩, ?_⟩
        · rwa [List.append_assoc] at first
        · rwa [List.append_assoc] at third
      · intro parts
        obtain ⟨_, c, same, ⟨a, b, rfl, first, second⟩, third⟩ := parts
        refine ⟨a, b ++ c, by rw [same, List.append_assoc], ?_, (ih (before ++ a) (b ++ c)).mpr ⟨b, c, rfl, second, ?_⟩⟩
        · rwa [List.append_assoc]
        · rwa [List.append_assoc]

theorem takes_sequence_cons (item : Regex α) (items : List (Regex α)) (before middle behind : List α) :
    Takes (sequence (item :: items)) before middle behind ↔
      ∃ a b, middle = a ++ b ∧ Takes item before a (b ++ behind) ∧ Takes (sequence items) (before ++ a) b behind :=
  takes_seq item (sequence items) before middle behind

theorem takes_sequence_nil (before middle behind : List α) : Takes (sequence []) before middle behind ↔ middle = [] :=
  takes_empty before middle behind

-- places gives the ends of the matches of the expression, and no others.
def Sound (expression : Regex α) : Prop := ∀ before behind front rest : List α,
  (front, rest) ∈ places expression (before, behind) ↔
    ∃ middle, front = before ++ middle ∧ behind = middle ++ rest ∧ Takes expression before middle rest

theorem mem_repeats (body : Regex α) (sound : Sound body) (n : Nat) (before behind front rest : List α)
    (enough : behind.length ≤ n) :
    (front, rest) ∈ repeats (places body) n (before, behind) ↔
      ∃ middle, front = before ++ middle ∧ behind = middle ++ rest ∧ Takes (.star body) before middle rest := by
  induction n generalizing before behind with
  | zero =>
      have nothing : behind = [] := List.eq_nil_of_length_eq_zero (Nat.le_zero.mp enough)
      rw [repeats, List.mem_singleton, nothing]
      constructor
      · intro same
        cases same
        exact ⟨[], (List.append_nil _).symm, rfl, .stop body _ _⟩
      · intro parts
        obtain ⟨middle, same, split, _⟩ := parts
        obtain ⟨none, last⟩ := List.append_eq_nil_iff.mp split.symm
        rw [same, none, last, List.append_nil]
  | succ n ih =>
      simp only [repeats, List.mem_cons, List.mem_flatMap, List.mem_filter, decide_eq_true_iff]
      constructor
      · intro parts
        cases parts with
        | inl same =>
            cases same
            exact ⟨[], (List.append_nil _).symm, rfl, .stop body _ _⟩
        | inr turned =>
            obtain ⟨⟨_, later⟩, ⟨turn, shorter⟩, onward⟩ := turned
            obtain ⟨a, rfl, split, takes⟩ := (sound before behind _ later).mp turn
            have less : later.length < behind.length := shorter
            obtain ⟨b, same, rfl, star⟩ := (ih (before ++ a) later (by omega)).mp onward
            refine ⟨a ++ b, by rw [same, List.append_assoc], by rw [split, List.append_assoc], ?_⟩
            exact .again body before a b rest takes star
      · intro parts
        obtain ⟨middle, same, split, takes⟩ := parts
        cases takes_star body before middle rest takes with
        | inl nothing => exact .inl (by rw [same, split, nothing, List.append_nil, List.nil_append])
        | inr turn =>
            obtain ⟨a, b, something, whole, first, star⟩ := turn
            have longer : 0 < a.length := List.length_pos_iff.mpr something
            have size : behind.length = a.length + (b ++ rest).length := by
              rw [split, whole, List.append_assoc, List.length_append]
            have shorter : (b ++ rest).length < behind.length := by omega
            refine .inr ⟨(before ++ a, b ++ rest), ⟨(sound _ _ _ _).mpr ⟨a, rfl, ?_, first⟩, shorter⟩, ?_⟩
            · rw [split, whole, List.append_assoc]
            · exact (ih (before ++ a) (b ++ rest) (by omega)).mpr ⟨b, by rw [same, whole, List.append_assoc], rfl, star⟩

theorem mem_empty : Sound (.empty : Regex α) := by
  intro before behind front rest
  simp only [places, List.mem_singleton, Prod.mk.injEq, takes_empty]
  constructor
  · intro same
    exact ⟨[], by rw [same.1, List.append_nil], same.2.symm, rfl⟩
  · intro parts
    obtain ⟨middle, same, split, nothing⟩ := parts
    rw [same, split, nothing, List.append_nil, List.nil_append]
    exact ⟨rfl, rfl⟩

theorem mem_one (fits : α → Bool) : Sound (.one fits) := by
  intro before behind front rest
  cases behind with
  | nil =>
      constructor
      · exact fun absent => nomatch absent
      · intro parts
        obtain ⟨middle, _, split, takes⟩ := parts
        obtain ⟨c, single, _⟩ := (takes_one fits before middle rest).mp takes
        rw [single] at split
        exact nomatch split
  | cons c behind =>
      by_cases fit : fits c = true
      · simp only [places, List.head?_cons, Option.elim_some, if_pos fit, List.mem_singleton, Prod.mk.injEq, List.tail_cons, takes_one]
        constructor
        · intro same
          exact ⟨[c], same.1, by rw [same.2, List.singleton_append], c, rfl, fit⟩
        · intro parts
          obtain ⟨middle, same, split, d, single, _⟩ := parts
          rw [single, List.singleton_append] at split
          cases split
          rw [same, single]
          exact ⟨rfl, rfl⟩
      · simp only [places, List.head?_cons, Option.elim_some, if_neg fit, takes_one]
        constructor
        · exact fun absent => nomatch absent
        · intro parts
          obtain ⟨middle, _, split, d, single, fits⟩ := parts
          rw [single, List.singleton_append] at split
          cases split
          exact absurd fits fit

theorem mem_look (here : List α → List α → Bool) : Sound (.look here) := by
  intro before behind front rest
  by_cases holds : here before behind = true
  · simp only [places, if_pos holds, List.mem_singleton, Prod.mk.injEq, takes_look]
    constructor
    · intro same
      rw [same.1, same.2]
      exact ⟨[], (List.append_nil _).symm, rfl, rfl, holds⟩
    · intro parts
      obtain ⟨middle, same, split, nothing, _⟩ := parts
      rw [same, split, nothing, List.append_nil, List.nil_append]
      exact ⟨rfl, rfl⟩
  · simp only [places, if_neg holds, takes_look]
    constructor
    · exact fun absent => nomatch absent
    · intro parts
      obtain ⟨middle, _, split, nothing, seen⟩ := parts
      rw [nothing, List.nil_append] at split
      rw [split] at holds
      exact absurd seen holds

theorem mem_seq (first second : Regex α) (one : Sound first) (two : Sound second) : Sound (.seq first second) := by
  intro before behind front rest
  simp only [places, List.mem_flatMap]
  constructor
  · intro parts
    obtain ⟨⟨_, later⟩, begins, ends⟩ := parts
    obtain ⟨a, rfl, split, left⟩ := (one before behind _ later).mp begins
    obtain ⟨b, same, rfl, right⟩ := (two (before ++ a) later front rest).mp ends
    refine ⟨a ++ b, by rw [same, List.append_assoc], by rw [split, List.append_assoc], ?_⟩
    exact .seq first second before a b rest left right
  · intro parts
    obtain ⟨middle, same, split, takes⟩ := parts
    obtain ⟨a, b, rfl, left, right⟩ := (takes_seq first second before middle rest).mp takes
    refine ⟨(before ++ a, b ++ rest), (one _ _ _ _).mpr ⟨a, rfl, by rw [split, List.append_assoc], left⟩, ?_⟩
    exact (two _ _ _ _).mpr ⟨b, by rw [same, List.append_assoc], rfl, right⟩

theorem mem_either (first second : Regex α) (one : Sound first) (two : Sound second) : Sound (.either first second) := by
  intro before behind front rest
  simp only [places, List.mem_append, one before behind front rest, two before behind front rest, takes_either]
  constructor
  · intro sides
    cases sides with
    | inl parts =>
        obtain ⟨middle, same, split, takes⟩ := parts
        exact ⟨middle, same, split, .inl takes⟩
    | inr parts =>
        obtain ⟨middle, same, split, takes⟩ := parts
        exact ⟨middle, same, split, .inr takes⟩
  · intro parts
    obtain ⟨middle, same, split, takes⟩ := parts
    cases takes with
    | inl takes => exact .inl ⟨middle, same, split, takes⟩
    | inr takes => exact .inr ⟨middle, same, split, takes⟩

theorem mem_places (expression : Regex α) : Sound expression := by
  induction expression with
  | empty => exact mem_empty
  | one fits => exact mem_one fits
  | look here => exact mem_look here
  | seq first second one two => exact mem_seq first second one two
  | either first second one two => exact mem_either first second one two
  | star body sound =>
      intro before behind front rest
      exact mem_repeats body sound behind.length before behind front rest (Nat.le_refl _)

theorem found_iff (expression : Regex α) (text : List α) : found expression text = true ↔
    ∃ before middle behind, text = before ++ (middle ++ behind) ∧ Takes expression before middle behind := by
  rw [found, List.any_eq_true]
  constructor
  · intro hit
    obtain ⟨k, _, nonempty⟩ := hit
    rw [Bool.not_eq_true', List.isEmpty_eq_false_iff_exists_mem] at nonempty
    obtain ⟨⟨_, behind⟩, isPlace⟩ := nonempty
    obtain ⟨middle, rfl, split, takes⟩ := (mem_places expression _ _ _ behind).mp isPlace
    exact ⟨text.take k, middle, behind, by rw [← split, List.take_append_drop], takes⟩
  · intro parts
    obtain ⟨before, middle, behind, whole, takes⟩ := parts
    have size : text.length = before.length + (middle ++ behind).length := by rw [whole, List.length_append]
    refine ⟨before.length, List.mem_range.mpr (by omega), ?_⟩
    rw [Bool.not_eq_true', List.isEmpty_eq_false_iff_exists_mem]
    refine ⟨(before ++ middle, behind), (mem_places expression _ _ _ _).mpr ⟨middle, ?_, ?_, ?_⟩⟩
    · rw [whole, List.take_left]
    · rw [whole, List.drop_left]
    · rwa [whole, List.take_left]

end

section

variable {α : Type} [DecidableEq α] (free : α → Bool)

def ofWild : Wild α → Regex α
  | .literal a => .one (· = a)
  | .one => .one free
  | .many => .star (.one free)

theorem takes_of_wild (pattern : List (Wild α)) (before middle behind : List α) :
    Takes (sequence (pattern.map (ofWild free))) before middle behind ↔ wildMatches free pattern middle = true := by
  induction pattern generalizing before middle with
  | nil => rw [List.map_nil, takes_sequence_nil, matches_nil]
  | cons item pattern ih =>
      simp only [List.map_cons, takes_sequence_cons, ih]
      cases item with
      | literal a =>
          simp only [ofWild, takes_one, matches_literal, decide_eq_true_iff]
          constructor
          · intro parts
            obtain ⟨_, b, same, ⟨c, rfl, rfl⟩, rest⟩ := parts
            exact ⟨b, same, rest⟩
          · intro parts
            obtain ⟨b, same, rest⟩ := parts
            exact ⟨[a], b, same, ⟨a, rfl, rfl⟩, rest⟩
      | one =>
          simp only [ofWild, takes_one, matches_one]
          constructor
          · intro parts
            obtain ⟨_, b, same, ⟨c, rfl, isFree⟩, rest⟩ := parts
            exact ⟨c, b, same, isFree, rest⟩
          · intro parts
            obtain ⟨c, b, same, isFree, rest⟩ := parts
            exact ⟨[c], b, same, ⟨c, rfl, isFree⟩, rest⟩
      | many => simp only [ofWild, takes_star_one, matches_many]

end

end Regex

end RingServer.Library
