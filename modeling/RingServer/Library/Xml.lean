import Mathlib.Data.List.Nodup
import RingServer.Library.Text

set_option autoImplicit false

namespace RingServer.Library.Xml

def quotation : Char := Char.ofNat 34

def apostrophe : Char := Char.ofNat 39

-- Char of XML 1.0.
def isChar (c : Char) : Bool :=
  c = '\t' || c = '\n' || c = '\r' || (32 ≤ c.toNat && c.toNat ≠ 0xFFFE && c.toNat ≠ 0xFFFF)

def isSpace (c : Char) : Bool := c = ' ' || c = '\t' || c = '\n' || c = '\r'

def nameStarts : List (Nat × Nat) :=
  [(58, 58), (65, 90), (95, 95), (97, 122), (0xC0, 0xD6), (0xD8, 0xF6), (0xF8, 0x2FF), (0x370, 0x37D), (0x37F, 0x1FFF),
    (0x200C, 0x200D), (0x2070, 0x218F), (0x2C00, 0x2FEF), (0x3001, 0xD7FF), (0xF900, 0xFDCF), (0xFDF0, 0xFFFD), (0x10000, 0xEFFFF)]

def isNameStart (c : Char) : Bool := nameStarts.any fun range => range.1 ≤ c.toNat && c.toNat ≤ range.2

def isNameChar (c : Char) : Bool :=
  isNameStart c || c.isDigit || c = '-' || c = '.' || c.toNat = 0xB7 || (0x300 ≤ c.toNat && c.toNat ≤ 0x36F) ||
    (0x203F ≤ c.toNat && c.toNat ≤ 0x2040)

def isName : List Char → Bool
  | [] => false
  | c :: rest => isNameStart c && rest.all isNameChar

def hexValue (c : Char) : Option Nat :=
  if c.isDigit then some (c.toNat - 48)
  else if 'a' ≤ c ∧ c ≤ 'f' then some (c.toNat - 87)
  else if 'A' ≤ c ∧ c ≤ 'F' then some (c.toNat - 55)
  else none

def charNamed (n : Nat) : Option Char := if n.isValidChar ∧ isChar (Char.ofNat n) then some (Char.ofNat n) else none

def reference : List Char → Option Char
  | ['a', 'm', 'p'] => some '&'
  | ['l', 't'] => some '<'
  | ['g', 't'] => some '>'
  | ['q', 'u', 'o', 't'] => some quotation
  | ['a', 'p', 'o', 's'] => some apostrophe
  | '#' :: 'x' :: d :: digits => ((d :: digits).mapM hexValue).bind fun values => charNamed (values.foldl (fun n value => 16 * n + value) 0)
  | '#' :: d :: digits => if (d :: digits).all Char.isDigit then charNamed (Nat.ofDigitChars 10 (d :: digits) 0) else none
  | _ => none

-- The references of a text are replaced. The first argument is what was read since an open
-- &, its last character first.
def unescape : Option (List Char) → List Char → Option (List Char)
  | none, [] => some []
  | some _, [] => none
  | none, c :: rest => if c = '&' then unescape (some []) rest else (unescape none rest).map (c :: ·)
  | some body, c :: rest =>
      if c = ';' then (reference body.reverse).bind fun d => (unescape none rest).map (d :: ·) else unescape (some (c :: body)) rest

-- The end of a line is one character, and white space in a value a blank.
def normalize : List Char → List Char
  | '\r' :: '\n' :: rest => ' ' :: normalize rest
  | c :: rest => (if isSpace c then ' ' else c) :: normalize rest
  | [] => []

def attributeValue (raw : List Char) : Option (List Char) :=
  if raw.all (fun c => isChar c && c ≠ '<') then unescape none (normalize raw) else none

def endsCData : List Char → Bool
  | ']' :: ']' :: '>' :: _ => true
  | _ :: rest => endsCData rest
  | [] => false

def isText (raw : List Char) : Bool := raw.all isChar && !endsCData raw && (unescape none raw).isSome

abbrev Attribute := List Char × List Char

inductive Tag where
  | start (name : List Char) (attributes : List Attribute)
  | empty (name : List Char) (attributes : List Attribute)
  | finish (name : List Char)
deriving DecidableEq

def readName (input : List Char) : Option (List Char × List Char) :=
  let name := input.takeWhile isNameChar
  if isName name then some (name, input.dropWhile isNameChar) else none

def readEq (input : List Char) : Option (List Char) :=
  match input.dropWhile isSpace with
  | '=' :: rest => some (rest.dropWhile isSpace)
  | _ => none

def readValue : List Char → Option (List Char × List Char)
  | [] => none
  | quote :: input =>
      if quote = quotation ∨ quote = apostrophe then
        match input.dropWhile (· ≠ quote) with
        | [] => none
        | _ :: rest => (attributeValue (input.takeWhile (· ≠ quote))).map fun value => (value, rest)
      else none

-- The attributes of a tag up to its end, with true where the element is empty; the first
-- argument is fuel.
def readAttributes : Nat → List Char → Option ((List Attribute × Bool) × List Char)
  | 0, _ => none
  | fuel + 1, input =>
      match input.dropWhile isSpace with
      | '>' :: rest => some (([], false), rest)
      | '/' :: '>' :: rest => some (([], true), rest)
      | trimmed =>
          if (input.head?.any isSpace) = true then
            (readName trimmed).bind fun name => (readEq name.2).bind fun quoted => (readValue quoted).bind fun value =>
              (readAttributes fuel value.2).map fun others => (((name.1, value.1) :: others.1.1, others.1.2), others.2)
          else none

def readTag : List Char → Option (Tag × List Char)
  | '/' :: input => (readName input).bind fun name =>
      match name.2.dropWhile isSpace with
      | '>' :: rest => some (.finish name.1, rest)
      | _ => none
  | input => (readName input).bind fun name => (readAttributes (input.length + 1) name.2).bind fun attributes =>
      if (attributes.1.1.map Prod.fst).Nodup then
        some (if attributes.1.2 then .empty name.1 attributes.1.1 else .start name.1 attributes.1.1, attributes.2)
      else none

-- The text before the first tag of a document, and its tags, each with the text behind it.
def lex : Nat → List Char → Option (List Char × List (Tag × List Char))
  | 0, _ => none
  | fuel + 1, input =>
      let text := input.takeWhile (· ≠ '<')
      if isText text then
        match input.dropWhile (· ≠ '<') with
        | [] => some (text, [])
        | _ :: behind => (readTag behind).bind fun tag => (lex fuel tag.2).map fun others => (text, (tag.1, others.1) :: others.2)
      else none

def closes : List (List Char) → List Tag → Bool
  | [], tags => tags.isEmpty
  | _ :: _, [] => false
  | top :: above, .start name _ :: tags => closes (name :: top :: above) tags
  | top :: above, .empty _ _ :: tags => closes (top :: above) tags
  | top :: above, .finish name :: tags => name = top && closes above tags

def isElement : List Tag → Bool
  | .empty _ _ :: tags => tags.isEmpty
  | .start name _ :: tags => closes [name] tags
  | _ => false

def declaration : List Char := "<?xml version=\"1.0\"?>".toList

def withoutDeclaration (input : List Char) : List Char := if declaration.isPrefixOf input then input.drop declaration.length else input

-- The tags of a well-formed document of elements, attributes and character data. Comments,
-- CDATA sections, processing instructions and document types are not read.
def read (document : List Char) : Option (List Tag) :=
  let input := withoutDeclaration document
  (lex (input.length + 1) input).bind fun pieces =>
    if isElement (pieces.2.map Prod.fst) ∧ pieces.1.all isSpace ∧ (pieces.2.getLast?.elim [] Prod.snd).all isSpace then
      some (pieces.2.map Prod.fst)
    else none

def attributeText (pair : Attribute) : List Char := ' ' :: (pair.1 ++ '=' :: quotation :: (pair.2 ++ [quotation]))

def startTag (name : List Char) (attributes : List Attribute) : List Char :=
  '<' :: (name ++ (attributes.flatMap attributeText ++ ['>']))

def emptyTag (name : List Char) (attributes : List Attribute) : List Char :=
  '<' :: (name ++ (attributes.flatMap attributeText ++ ['/', '>']))

def finishTag (name : List Char) : List Char := '<' :: '/' :: (name ++ ['>'])

def Tag.text : Tag → List Char
  | .start name attributes => startTag name attributes
  | .empty name attributes => emptyTag name attributes
  | .finish name => finishTag name

theorem name_start_char (c : Char) (starts : isNameStart c = true) : isNameChar c = true := by
  rw [isNameChar, starts]
  rfl

theorem name_chars (name : List Char) (isNamed : isName name = true) : ∀ c ∈ name, isNameChar c = true := by
  cases name with
  | nil => cases isNamed
  | cons d rest =>
      rw [isName, Bool.and_eq_true] at isNamed
      intro c member
      rcases List.mem_cons.mp member with rfl | inside
      · exact name_start_char c isNamed.1
      · exact List.all_eq_true.mp isNamed.2 c inside

theorem read_name (name tail : List Char) (isNamed : isName name = true) (ends : tail.head?.any isNameChar = false) :
    readName (name ++ tail) = some (name, tail) := by
  have chars := name_chars name isNamed
  have behind : tail.takeWhile isNameChar = [] ∧ tail.dropWhile isNameChar = tail := by
    cases tail with
    | nil => exact ⟨rfl, rfl⟩
    | cons c rest =>
        have other : ¬ isNameChar c = true := Bool.eq_false_iff.mp ends
        exact ⟨List.takeWhile_cons_of_neg other, List.dropWhile_cons_of_neg other⟩
  rw [readName, List.takeWhile_append_of_pos chars, List.dropWhile_append_of_pos chars, behind.1, behind.2, List.append_nil]
  exact if_pos isNamed

theorem read_value (raw rest : List Char) :
    readValue (quotation :: (raw ++ quotation :: rest)) =
      (attributeValue ((raw ++ quotation :: rest).takeWhile (· ≠ quotation))).map fun value =>
        (value, ((raw ++ quotation :: rest).dropWhile (· ≠ quotation)).tail) := by
  rw [readValue, if_pos (.inl rfl)]
  cases dropped : (raw ++ quotation :: rest).dropWhile (· ≠ quotation) with
  | nil =>
      have all := List.dropWhile_eq_nil_iff.mp dropped quotation (List.mem_append_right raw List.mem_cons_self)
      exact absurd rfl (of_decide_eq_true all)
  | cons c more => rfl

theorem start_apart (c d : Char) (starts : isNameStart c = true) (other : isNameStart d = false) : c ≠ d := by
  rintro rfl
  rw [other] at starts
  cases starts

theorem space_is (c : Char) (isBlank : isSpace c = true) : c = ' ' ∨ c = '\t' ∨ c = '\n' ∨ c = '\r' := by
  rw [isSpace, Bool.or_eq_true, Bool.or_eq_true, Bool.or_eq_true, decide_eq_true_iff, decide_eq_true_iff, decide_eq_true_iff,
    decide_eq_true_iff, or_assoc, or_assoc] at isBlank
  exact isBlank

theorem read_attribute (fuel : Nat) (pair : Attribute) (isNamed : isName pair.1 = true) (behind : List Char) :
    readAttributes (fuel + 1) (attributeText pair ++ behind) =
      (readValue (quotation :: (pair.2 ++ quotation :: behind))).bind fun read =>
        (readAttributes fuel read.2).map fun others => (((pair.1, read.1) :: others.1.1, others.1.2), others.2) := by
  obtain ⟨name, raw⟩ := pair
  cases name with
  | nil => cases isNamed
  | cons c name =>
      have starts : isNameStart c = true := (Bool.and_eq_true_iff.mp isNamed).1
      have close := start_apart c '>' starts (by decide)
      have slash := start_apart c '/' starts (by decide)
      have space : ¬ isSpace c = true := by
        intro isBlank
        rcases space_is c isBlank with rfl | rfl | rfl | rfl <;> cases starts
      have read := read_name (c :: name) ('=' :: quotation :: (raw ++ quotation :: behind)) isNamed rfl
      have text : attributeText (c :: name, raw) ++ behind = ' ' :: (c :: name ++ '=' :: quotation :: (raw ++ quotation :: behind)) := by
        simp only [attributeText, List.cons_append, List.append_assoc, List.nil_append]
      have trimmed : (' ' :: (c :: name ++ '=' :: quotation :: (raw ++ quotation :: behind))).dropWhile isSpace =
          c :: name ++ '=' :: quotation :: (raw ++ quotation :: behind) := by
        rw [List.dropWhile_cons_of_pos (by decide), List.cons_append, List.dropWhile_cons_of_neg space]
      rw [text, readAttributes, trimmed]
      split
      · next same => exact absurd (List.cons.inj same).1 close
      · next same => exact absurd (List.cons.inj same).1 slash
      · rw [if_pos (by exact rfl), read]
        rfl

def Tag.name : Tag → List Char
  | .start name _ => name
  | .empty name _ => name
  | .finish name => name

def Tag.attributes : Tag → List Attribute
  | .start _ attributes => attributes
  | .empty _ attributes => attributes
  | .finish _ => []

def wellNamed (name : List Char) (names : List (List Char)) : Bool := isName name && names.all isName && decide names.Nodup

def Tag.sound (tag : Tag) : Bool := wellNamed tag.name (tag.attributes.map Prod.fst)

def Spells (raw value : List Char) : Prop := quotation ∉ raw ∧ attributeValue raw = some value

def AttributesSpell (raws attributes : List Attribute) : Prop :=
  List.Forall₂ (fun raw pair => raw.1 = pair.1 ∧ Spells raw.2 pair.2) raws attributes

inductive TagSpells : Tag → Tag → Prop where
  | start (name : List Char) (raws attributes : List Attribute) (spelled : AttributesSpell raws attributes) :
      TagSpells (.start name raws) (.start name attributes)
  | empty (name : List Char) (raws attributes : List Attribute) (spelled : AttributesSpell raws attributes) :
      TagSpells (.empty name raws) (.empty name attributes)
  | finish (name : List Char) : TagSpells (.finish name) (.finish name)

def tagEnd (isEmpty : Bool) : List Char := if isEmpty then ['/', '>'] else ['>']

theorem until_quote (raw rest : List Char) (apart : quotation ∉ raw) :
    (raw ++ quotation :: rest).takeWhile (· ≠ quotation) = raw ∧
      (raw ++ quotation :: rest).dropWhile (· ≠ quotation) = quotation :: rest := by
  have all : ∀ c ∈ raw, decide (c ≠ quotation) = true := fun c member => decide_eq_true fun same => apart (same ▸ member)
  rw [List.takeWhile_append_of_pos all, List.dropWhile_append_of_pos all]
  exact ⟨by rw [List.takeWhile_cons_of_neg (by decide), List.append_nil], List.dropWhile_cons_of_neg (by decide)⟩

theorem read_spelled (raw value rest : List Char) (spelled : Spells raw value) :
    readValue (quotation :: (raw ++ quotation :: rest)) = some (value, rest) := by
  obtain ⟨taken, dropped⟩ := until_quote raw rest spelled.1
  rw [read_value, taken, dropped, spelled.2]
  rfl

theorem read_tag_end (isEmpty : Bool) (rest : List Char) (fuel : Nat) :
    readAttributes (fuel + 1) (tagEnd isEmpty ++ rest) = some (([], isEmpty), rest) := by
  cases isEmpty <;> rfl

theorem read_attributes (isEmpty : Bool) (rest : List Char) (raws attributes : List Attribute) (spelled : AttributesSpell raws attributes)
    (named : ∀ raw ∈ raws, isName raw.1 = true) (fuel : Nat) (enough : raws.length < fuel) :
    readAttributes fuel (raws.flatMap attributeText ++ (tagEnd isEmpty ++ rest)) = some ((attributes, isEmpty), rest) := by
  induction spelled generalizing fuel with
  | nil =>
      obtain ⟨less, rfl⟩ := Nat.exists_eq_succ_of_ne_zero (Nat.ne_zero_of_lt enough)
      exact read_tag_end isEmpty rest less
  | @cons raw pair raws attributes first others ih =>
      obtain ⟨less, rfl⟩ := Nat.exists_eq_succ_of_ne_zero (Nat.ne_zero_of_lt enough)
      have behind := ih (fun other member => named other (List.mem_cons_of_mem _ member)) less (Nat.lt_of_succ_lt_succ enough)
      rw [List.flatMap_cons, List.append_assoc, read_attribute less raw (named raw List.mem_cons_self),
        read_spelled raw.2 pair.2 _ first.2, Option.bind_some, behind, first.1]
      rfl

theorem tag_tail (isEmpty : Bool) (attributes : List Attribute) (rest : List Char) :
    (attributes.flatMap attributeText ++ (tagEnd isEmpty ++ rest)).head?.any isNameChar = false := by
  cases attributes with
  | nil => cases isEmpty <;> rfl
  | cons pair others => rfl

theorem read_opening (name : List Char) (isNamed : isName name = true) (tail : List Char) (ends : tail.head?.any isNameChar = false) :
    readTag (name ++ tail) = (readAttributes ((name ++ tail).length + 1) tail).bind fun read =>
      if (read.1.1.map Prod.fst).Nodup then
        some (if read.1.2 then .empty name read.1.1 else .start name read.1.1, read.2)
      else none := by
  have isRead := read_name name tail isNamed ends
  cases name with
  | nil => cases isNamed
  | cons c name =>
      have slash := start_apart c '/' (Bool.and_eq_true_iff.mp isNamed).1 (by decide)
      rw [readTag.eq_def]
      split
      · next same => exact absurd (List.cons.inj same).1 slash
      · rw [isRead, Option.bind_some]

theorem read_finish (name : List Char) (isNamed : isName name = true) (rest : List Char) :
    readTag ('/' :: (name ++ '>' :: rest)) = some (.finish name, rest) := by
  rw [readTag, read_name name ('>' :: rest) isNamed rfl]
  rfl


theorem attributes_length (attributes : List Attribute) : attributes.length ≤ (attributes.flatMap attributeText).length := by
  induction attributes with
  | nil => exact Nat.le_refl 0
  | cons pair others ih =>
      rw [List.flatMap_cons, List.length_append, List.length_cons, attributeText, List.length_cons]
      omega

theorem spelled_names (raws attributes : List Attribute) (spelled : AttributesSpell raws attributes) :
    raws.map Prod.fst = attributes.map Prod.fst := by
  induction spelled with
  | nil => rfl
  | cons first others ih => rw [List.map_cons, List.map_cons, first.1, ih]

theorem read_element (isEmpty : Bool) (name : List Char) (isNamed : isName name = true) (raws attributes : List Attribute)
    (spelled : AttributesSpell raws attributes) (named : ∀ raw ∈ raws, isName raw.1 = true) (distinct : (raws.map Prod.fst).Nodup)
    (rest : List Char) :
    readTag (name ++ (raws.flatMap attributeText ++ (tagEnd isEmpty ++ rest))) =
      some (if isEmpty then .empty name attributes else .start name attributes, rest) := by
  have enough : raws.length < (name ++ (raws.flatMap attributeText ++ (tagEnd isEmpty ++ rest))).length + 1 := by
    have length := attributes_length raws
    rw [List.length_append, List.length_append]
    omega
  rw [read_opening name isNamed _ (tag_tail isEmpty raws rest), read_attributes isEmpty rest raws attributes spelled named _ enough,
    Option.bind_some, if_pos (spelled_names raws attributes spelled ▸ distinct)]

theorem sound_parts (tag : Tag) (sound : tag.sound = true) :
    isName tag.name = true ∧ (∀ pair ∈ tag.attributes, isName pair.1 = true) ∧ (tag.attributes.map Prod.fst).Nodup := by
  rw [Tag.sound, wellNamed, Bool.and_eq_true, Bool.and_eq_true, decide_eq_true_iff] at sound
  refine ⟨sound.1.1, fun pair member => ?_, sound.2⟩
  exact List.all_eq_true.mp sound.1.2 pair.1 (List.mem_map_of_mem member)

theorem tag_text (isEmpty : Bool) (name : List Char) (attributes : List Attribute) (rest : List Char) :
    '<' :: (name ++ (attributes.flatMap attributeText ++ tagEnd isEmpty)) ++ rest =
      '<' :: (name ++ (attributes.flatMap attributeText ++ (tagEnd isEmpty ++ rest))) := by
  simp only [List.cons_append, List.append_assoc]

theorem read_tag (raw tag : Tag) (spelled : TagSpells raw tag) (sound : raw.sound = true) (rest : List Char) :
    ∃ behind, raw.text ++ rest = '<' :: behind ∧ readTag behind = some (tag, rest) := by
  obtain ⟨isNamed, named, distinct⟩ := sound_parts raw sound
  cases spelled with
  | start name raws attributes spelled =>
      exact ⟨_, tag_text false name raws rest, read_element false name isNamed raws attributes spelled named distinct rest⟩
  | empty name raws attributes spelled =>
      exact ⟨_, tag_text true name raws rest, read_element true name isNamed raws attributes spelled named distinct rest⟩
  | finish name =>
      refine ⟨'/' :: (name ++ '>' :: rest), ?_, read_finish name isNamed rest⟩
      simp only [Tag.text, finishTag, List.cons_append, List.append_assoc, List.nil_append]

def Lexes (input : List Char) (tags : List Tag) : Prop :=
  ∀ fuel, input.length < fuel → ∃ pieces, lex fuel input = some pieces ∧ pieces.2.map Prod.fst = tags ∧
    pieces.1.all isSpace = true ∧ ∀ piece ∈ pieces.2, piece.2.all isSpace = true

def Yields (text : List Char) (tags : List Tag) : Prop := ∀ rest more, Lexes rest more → Lexes (text ++ rest) (tags ++ more)

theorem yields_append (text other : List Char) (tags others : List Tag) (first : Yields text tags) (second : Yields other others) :
    Yields (text ++ other) (tags ++ others) := by
  intro rest more behind
  rw [List.append_assoc, List.append_assoc]
  exact first _ _ (second rest more behind)

theorem yields_flat_map {α : Type} (items : List α) (text : α → List Char) (tags : α → List Tag)
    (each : ∀ item ∈ items, Yields (text item) (tags item)) : Yields (items.flatMap text) (items.flatMap tags) := by
  induction items with
  | nil => exact fun rest more behind => behind
  | cons item items ih =>
      rw [List.flatMap_cons, List.flatMap_cons]
      exact yields_append _ _ _ _ (each item List.mem_cons_self) (ih fun other member => each other (List.mem_cons_of_mem _ member))

theorem unescape_plain (raw : List Char) (plain : '&' ∉ raw) : unescape none raw = some raw := by
  induction raw with
  | nil => rfl
  | cons c rest ih =>
      have other : c ≠ '&' := fun same => plain (same ▸ List.mem_cons_self)
      rw [unescape, if_neg other, ih fun member => plain (List.mem_cons_of_mem _ member)]
      rfl

theorem ends_member (raw : List Char) (ends : endsCData raw = true) : ']' ∈ raw := by
  fun_induction endsCData raw with
  | case1 more => exact List.mem_cons_self
  | case2 c rest other ih => exact List.mem_cons_of_mem _ (ih ends)
  | case3 => cases ends

theorem blank_text (blank : List Char) (isBlank : blank.all isSpace = true) :
    isText blank = true ∧ '<' ∉ blank := by
  have chars := List.all_eq_true.mp isBlank
  have apart (d : Char) (other : isSpace d = false) : d ∉ blank := by
    intro member
    rw [chars d member] at other
    cases other
  have noEnd : endsCData blank = false := by
    cases ends : endsCData blank with
    | false => rfl
    | true =>
        exact absurd (ends_member blank ends) (apart ']' rfl)
  refine ⟨?_, apart '<' rfl⟩
  rw [isText, unescape_plain blank (apart '&' rfl), noEnd, Bool.not_false, Bool.and_true, Option.isSome_some, Bool.and_true,
    List.all_eq_true]
  intro c member
  rcases space_is c (chars c member) with rfl | rfl | rfl | rfl <;> rfl


theorem lex_blank (fuel : Nat) (blank rest : List Char) (pieces : List Char × List (Tag × List Char))
    (isLexed : lex fuel rest = some pieces) (isBlank : blank.all isSpace = true) (before : pieces.1.all isSpace = true) :
    lex fuel (blank ++ rest) = some (blank ++ pieces.1, pieces.2) := by
  cases fuel with
  | zero => cases isLexed
  | succ fuel =>
      have apart : ∀ c ∈ blank, decide (c ≠ '<') = true := by
        intro c member
        exact decide_eq_true fun same => (blank_text blank isBlank).2 (same ▸ member)
      have whole (text : List Char) (isSame : text.all isSpace = true) : isText (blank ++ text) = true := by
        apply (blank_text (blank ++ text) _).1
        rw [List.all_append, isBlank, isSame]
        rfl
      rw [lex] at isLexed ⊢
      rw [List.takeWhile_append_of_pos apart, List.dropWhile_append_of_pos apart]
      split at isLexed
      · cases dropped : rest.dropWhile (· ≠ '<') with
        | nil =>
            rw [dropped] at isLexed
            cases isLexed
            rw [if_pos (whole _ before)]
        | cons c behind =>
            rw [dropped] at isLexed
            obtain ⟨tag, isTag, isLexed⟩ := Option.bind_eq_some_iff.mp isLexed
            obtain ⟨others, isOthers, rfl⟩ := Option.map_eq_some_iff.mp isLexed
            rw [if_pos (whole _ before)]
            simp only [isTag, isOthers, Option.bind_some, Option.map_some]
      · cases isLexed

theorem yields_blank (blank : List Char) (isBlank : blank.all isSpace = true) : Yields blank [] := by
  intro rest more behind fuel enough
  rw [List.length_append] at enough
  obtain ⟨pieces, isLexed, tags, before, after⟩ := behind fuel (by omega)
  refine ⟨_, lex_blank fuel blank rest pieces isLexed isBlank before, tags, ?_, after⟩
  rw [List.all_append, isBlank, before]
  rfl

theorem lex_open (fuel : Nat) (behind : List Char) :
    lex (fuel + 1) ('<' :: behind) =
      (readTag behind).bind fun tag => (lex fuel tag.2).map fun others => ([], (tag.1, others.1) :: others.2) := by
  rw [lex, List.takeWhile_cons_of_neg (by decide), List.dropWhile_cons_of_neg (by decide)]
  exact if_pos rfl

theorem yields_tag (raw tag : Tag) (spelled : TagSpells raw tag) (sound : raw.sound = true) : Yields raw.text [tag] := by
  intro rest more lexes fuel enough
  obtain ⟨behind, isText, isRead⟩ := read_tag raw tag spelled sound rest
  have shorter : rest.length < (raw.text ++ rest).length := by
    have opens : raw.text ≠ [] := by
      cases raw <;> exact List.cons_ne_nil _ _
    rw [List.length_append]
    have length := List.length_pos_of_ne_nil opens
    omega
  obtain ⟨fuel, rfl⟩ := Nat.exists_eq_succ_of_ne_zero (Nat.ne_zero_of_lt enough)
  obtain ⟨pieces, isLexed, tags, before, after⟩ := lexes fuel (by omega)
  rw [isText, lex_open, isRead, Option.bind_some, isLexed, Option.map_some]
  refine ⟨_, rfl, ?_, rfl, ?_⟩
  · rw [List.map_cons, tags]
    rfl
  · intro piece member
    rcases List.mem_cons.mp member with rfl | inside
    · exact before
    · exact after piece inside

theorem lexes_nothing : Lexes [] [] := by
  intro fuel enough
  obtain ⟨fuel, rfl⟩ := Nat.exists_eq_succ_of_ne_zero (Nat.ne_zero_of_lt enough)
  exact ⟨([], []), rfl, rfl, rfl, fun piece member => absurd member List.not_mem_nil⟩

theorem read_document (document text : List Char) (tags : List Tag) (isBody : withoutDeclaration document = text)
    (reads : Yields text tags) (element : isElement tags = true) : read document = some tags := by
  have lexes := reads [] [] lexes_nothing
  rw [List.append_nil, List.append_nil] at lexes
  obtain ⟨pieces, isLexed, isTags, before, after⟩ := lexes (text.length + 1) (Nat.lt_succ_self _)
  rw [read, isBody, isLexed, Option.bind_some, isTags]
  apply if_pos
  refine ⟨element, before, ?_⟩
  cases last : pieces.2.getLast? with
  | none => rfl
  | some piece => exact after piece (List.mem_of_getLast? last)

example : read "<a b=\"1 &lt; 2\" c='&#x41;'><d/> text</a>".toList =
    some [.start ['a'] [(['b'], "1 < 2".toList), (['c'], ['A'])], .empty ['d'] [], .finish ['a']] := by decide +kernel

def Balanced (tags : List Tag) : Prop := ∀ top above rest, closes (top :: above) (tags ++ rest) = closes (top :: above) rest

theorem balanced_append (tags others : List Tag) (first : Balanced tags) (second : Balanced others) : Balanced (tags ++ others) := by
  intro top above rest
  rw [List.append_assoc, first, second]

theorem balanced_flat_map {α : Type} (items : List α) (tags : α → List Tag) (each : ∀ item, Balanced (tags item)) :
    Balanced (items.flatMap tags) := by
  induction items with
  | nil => exact fun _ _ _ => rfl
  | cons item items ih =>
      rw [List.flatMap_cons]
      exact balanced_append _ _ (each item) ih

theorem balanced_empty (name : List Char) (attributes : List Attribute) : Balanced [.empty name attributes] :=
  fun _ _ _ => rfl

theorem balanced_rows {α : Type} (items : List α) (name : List Char) (attributes : α → List Attribute) :
    Balanced (items.map fun item => .empty name (attributes item)) := by
  rw [List.map_eq_flatMap]
  exact balanced_flat_map items _ fun item => balanced_empty name (attributes item)

theorem balanced_element (name : List Char) (attributes : List Attribute) (inside : List Tag) (balanced : Balanced inside) :
    Balanced (.start name attributes :: (inside ++ [.finish name])) := by
  intro top above rest
  rw [List.cons_append, closes, List.append_assoc, balanced, List.cons_append, closes, decide_eq_true rfl]
  rfl

theorem element_document (name : List Char) (attributes : List Attribute) (inside : List Tag) (balanced : Balanced inside) :
    isElement (.start name attributes :: (inside ++ [.finish name])) = true := by
  rw [isElement, balanced, closes, decide_eq_true rfl]
  rfl


-- Every character that a value keeps; other white space than a blank is read as blanks.
def isPrintable (c : Char) : Bool := 32 ≤ c.toNat && c.toNat ≠ 0xFFFE && c.toNat ≠ 0xFFFF

def Printable (text : List Char) : Prop := ∀ c ∈ text, isPrintable c = true

def isMarkup (c : Char) : Bool := c = '&' || c = '<' || c = quotation

def Unmarked (text : List Char) : Prop := ∀ c ∈ text, isMarkup c = false

def Verbatim (text : List Char) : Prop := (text.all fun c => isPrintable c && !isMarkup c) = true

def escapeChar (c : Char) : List Char :=
  if c = '&' then "&amp;".toList
  else if c = '<' then "&lt;".toList
  else if c = '>' then "&gt;".toList
  else if c = quotation then "&quot;".toList
  else if c = apostrophe then "&apos;".toList
  else [c]

theorem printable_char (c : Char) (printable : isPrintable c = true) : isChar c = true ∧ (isSpace c = true → c = ' ') := by
  rw [isPrintable] at printable
  constructor
  · rw [isChar, printable, Bool.or_true]
  · intro isBlank
    rcases space_is c isBlank with rfl | rfl | rfl | rfl
    · rfl
    · cases printable
    · cases printable
    · cases printable

theorem normalize_printable (text : List Char) (printable : Printable text) : normalize text = text := by
  fun_induction normalize text with
  | case1 rest ih => exact absurd (printable '\r' List.mem_cons_self) (by decide)
  | case2 c rest other ih =>
      have blank := (printable_char c (printable c List.mem_cons_self)).2
      rw [ih fun d member => printable d (List.mem_cons_of_mem _ member)]
      split
      · next isBlank => rw [blank isBlank]
      · rfl
  | case3 => rfl

theorem value_printable (raw : List Char) (printable : Printable raw) (opens : '<' ∉ raw) : attributeValue raw = unescape none raw := by
  rw [attributeValue, normalize_printable raw printable]
  apply if_pos
  rw [List.all_eq_true]
  intro c member
  have other : c ≠ '<' := fun same => opens (same ▸ member)
  rw [(printable_char c (printable c member)).1, decide_eq_true other]
  rfl

theorem unmarked_apart (text : List Char) (unmarked : Unmarked text) (c : Char) (markup : isMarkup c = true) : c ∉ text := by
  intro member
  rw [unmarked c member] at markup
  cases markup

theorem verbatim_parts (text : List Char) : Verbatim text ↔ Printable text ∧ Unmarked text := by
  rw [Verbatim, List.all_eq_true]
  constructor
  · intro plain
    have each (c : Char) (member : c ∈ text) : isPrintable c = true ∧ isMarkup c = false := by
      have both := plain c member
      rw [Bool.and_eq_true, Bool.not_eq_true'] at both
      exact both
    exact ⟨fun c member => (each c member).1, fun c member => (each c member).2⟩
  · rintro ⟨printable, unmarked⟩ c member
    rw [printable c member, unmarked c member]
    rfl

theorem verbatim_append (text other : List Char) (first : Verbatim text) (second : Verbatim other) : Verbatim (text ++ other) := by
  rw [Verbatim, List.all_append, first, second]
  rfl

theorem unmarked_spells (text : List Char) (printable : Printable text) (unmarked : Unmarked text) : Spells text text := by
  refine ⟨unmarked_apart text unmarked quotation rfl, ?_⟩
  rw [value_printable text printable (unmarked_apart text unmarked '<' rfl), unescape_plain text (unmarked_apart text unmarked '&' rfl)]

theorem escape_char (c : Char) (printable : isPrintable c = true) :
    ∀ d ∈ escapeChar c, isPrintable d = true ∧ d ≠ '<' ∧ d ≠ quotation := by
  have among (text : List Char) (all : text.all (fun d => isPrintable d && d ≠ '<' && d ≠ quotation) = true) :
      ∀ d ∈ text, isPrintable d = true ∧ d ≠ '<' ∧ d ≠ quotation := by
    intro d member
    have each := List.all_eq_true.mp all d member
    rw [Bool.and_eq_true, Bool.and_eq_true, decide_eq_true_iff, decide_eq_true_iff] at each
    exact ⟨each.1.1, each.1.2, each.2⟩
  rw [escapeChar]
  split
  · exact among _ rfl
  · split
    · exact among _ rfl
    · next opens =>
      split
      · exact among _ rfl
      · split
        · exact among _ rfl
        · next quotes =>
          split
          · exact among _ rfl
          · intro d member
            obtain rfl := List.mem_singleton.mp member
            exact ⟨printable, opens, quotes⟩

theorem unescape_escape_char (c : Char) (rest : List Char) :
    unescape none (escapeChar c ++ rest) = (unescape none rest).map (c :: ·) := by
  rw [escapeChar]
  split
  · next same => rw [same]; rfl
  · next other =>
    split
    · next same => rw [same]; rfl
    · split
      · next same => rw [same]; rfl
      · split
        · next same => rw [same]; rfl
        · split
          · next same => rw [same]; rfl
          · rw [List.singleton_append, unescape, if_neg other]

theorem unescape_escape (text : List Char) : unescape none (text.flatMap escapeChar) = some text := by
  induction text with
  | nil => rfl
  | cons c rest ih =>
      rw [List.flatMap_cons, unescape_escape_char, ih]
      rfl

theorem escape_spells (text : List Char) (printable : Printable text) : Spells (text.flatMap escapeChar) text := by
  have chars : ∀ d ∈ text.flatMap escapeChar, isPrintable d = true ∧ d ≠ '<' ∧ d ≠ quotation := by
    intro d member
    obtain ⟨c, inside, isSpelled⟩ := List.mem_flatMap.mp member
    exact escape_char c (printable c inside) d isSpelled
  refine ⟨fun member => (chars quotation member).2.2 rfl, ?_⟩
  rw [value_printable _ (fun d member => (chars d member).1) fun member => (chars '<' member).2.1 rfl, unescape_escape]


theorem unescape_length (pending : Option (List Char)) (raw value : List Char) (isRead : unescape pending raw = some value) :
    value.length ≤ raw.length := by
  fun_induction unescape pending raw generalizing value with
  | case1 =>
      cases isRead
      exact Nat.le_refl 0
  | case2 body => cases isRead
  | case3 rest ih => exact Nat.le_succ_of_le (ih value isRead)
  | case4 c rest other ih =>
      obtain ⟨tail, isTail, rfl⟩ := Option.map_eq_some_iff.mp isRead
      exact Nat.succ_le_succ (ih tail isTail)
  | case5 body rest ih =>
      obtain ⟨d, -, isRead⟩ := Option.bind_eq_some_iff.mp isRead
      obtain ⟨tail, isTail, rfl⟩ := Option.map_eq_some_iff.mp isRead
      exact Nat.succ_le_succ (ih tail isTail)
  | case6 body c rest other ih => exact Nat.le_succ_of_le (ih value isRead)

theorem unescape_same_length (raw value : List Char) (isRead : unescape none raw = some value) (same : raw.length ≤ value.length) :
    '&' ∉ raw := by
  induction raw generalizing value with
  | nil => exact List.not_mem_nil
  | cons c rest ih =>
      rw [unescape] at isRead
      split at isRead
      · have shorter := unescape_length _ rest value isRead
        rw [List.length_cons] at same
        omega
      · next other =>
        obtain ⟨tail, isTail, rfl⟩ := Option.map_eq_some_iff.mp isRead
        intro member
        rcases List.mem_cons.mp member with isFirst | inside
        · exact other isFirst.symm
        · exact ih tail isTail (Nat.le_of_succ_le_succ same) inside

theorem normalize_length (raw : List Char) : (normalize raw).length ≤ raw.length := by
  fun_induction normalize raw with
  | case1 rest ih => exact Nat.le_succ_of_le (Nat.succ_le_succ ih)
  | case2 c rest other ih => exact Nat.succ_le_succ ih
  | case3 => exact Nat.le_refl 0

theorem normalize_keeps (raw : List Char) (member : '&' ∈ raw) : '&' ∈ normalize raw := by
  fun_induction normalize raw with
  | case1 rest ih =>
      rcases List.mem_cons.mp member with isFirst | inside
      · cases isFirst
      · rcases List.mem_cons.mp inside with isSecond | inside
        · cases isSecond
        · exact List.mem_cons_of_mem _ (ih inside)
  | case2 c rest other ih =>
      rcases List.mem_cons.mp member with rfl | inside
      · exact List.mem_cons_self
      · exact List.mem_cons_of_mem _ (ih inside)
  | case3 => exact member

theorem value_exact (text rest behind : List Char)
    (isRead : readValue (quotation :: (text ++ quotation :: rest)) = some (text, behind)) : Unmarked text := by
  rw [read_value] at isRead
  obtain ⟨value, isValue, pair⟩ := Option.map_eq_some_iff.mp isRead
  obtain ⟨rfl, -⟩ := Prod.mk.inj pair
  rw [attributeValue] at isValue
  split at isValue
  · next chars =>
    have short := unescape_length none _ value isValue
    by_cases quotes : quotation ∈ value
    · obtain ⟨front, back, isSplit, apart⟩ := List.eq_append_cons_of_mem quotes
      have taken : (value ++ quotation :: rest).takeWhile (· ≠ quotation) = front := by
        rw [isSplit, List.append_assoc, List.cons_append]
        exact (until_quote front _ apart).1
      have shorter := Nat.le_trans short (normalize_length _)
      rw [taken, isSplit, List.length_append, List.length_cons] at shorter
      omega
    · rw [(until_quote value rest quotes).1] at chars isValue
      have none := unescape_same_length _ value isValue (normalize_length value)
      intro c member
      have each := List.all_eq_true.mp chars c member
      rw [Bool.and_eq_true, decide_eq_true_iff] at each
      rw [isMarkup, Bool.or_eq_false_iff, Bool.or_eq_false_iff, decide_eq_false_iff_not, decide_eq_false_iff_not, decide_eq_false_iff_not]
      refine ⟨⟨?_, each.2⟩, ?_⟩
      · rintro rfl
        exact none (normalize_keeps value member)
      · rintro rfl
        exact quotes member
  · cases isValue

theorem attributes_exact (isEmpty : Bool) (rest : List Char) (attributes : List Attribute)
    (named : ∀ pair ∈ attributes, isName pair.1 = true) (printable : ∀ pair ∈ attributes, Printable pair.2) (fuel : Nat)
    (read : (List Attribute × Bool) × List Char)
    (isRead : readAttributes fuel (attributes.flatMap attributeText ++ (tagEnd isEmpty ++ rest)) = some read)
    (same : read.1.1 = attributes) : ∀ pair ∈ attributes, Unmarked pair.2 := by
  induction attributes generalizing fuel read with
  | nil => exact fun pair member => absurd member List.not_mem_nil
  | cons pair attributes ih =>
      cases fuel with
      | zero => cases isRead
      | succ fuel =>
          rw [List.flatMap_cons, List.append_assoc, read_attribute fuel pair (named pair List.mem_cons_self)] at isRead
          obtain ⟨value, isValue, isRead⟩ := Option.bind_eq_some_iff.mp isRead
          obtain ⟨others, isOthers, rfl⟩ := Option.map_eq_some_iff.mp isRead
          obtain ⟨first, tail⟩ := List.cons.inj same
          have text : value.1 = pair.2 := congrArg Prod.snd first
          have unmarked : Unmarked pair.2 := value_exact pair.2 _ value.2 (by rw [isValue, ← text])
          have spelled := read_spelled pair.2 pair.2 (attributes.flatMap attributeText ++ (tagEnd isEmpty ++ rest))
            (unmarked_spells pair.2 (printable pair List.mem_cons_self) unmarked)
          rw [isValue] at spelled
          obtain rfl := Option.some.inj spelled
          have behind := ih (fun other member => named other (List.mem_cons_of_mem _ member))
            (fun other member => printable other (List.mem_cons_of_mem _ member)) fuel others isOthers tail
          intro other member
          rcases List.mem_cons.mp member with rfl | inside
          · exact unmarked
          · exact behind other inside


theorem element_exact (isEmpty : Bool) (name : List Char) (isNamed : isName name = true) (attributes : List Attribute)
    (named : ∀ pair ∈ attributes, isName pair.1 = true) (printable : ∀ pair ∈ attributes, Printable pair.2) (rest : List Char)
    (read : Tag × List Char) (isRead : readTag (name ++ (attributes.flatMap attributeText ++ (tagEnd isEmpty ++ rest))) = some read)
    (same : read.1.attributes = attributes) : ∀ pair ∈ attributes, Unmarked pair.2 := by
  rw [read_opening name isNamed _ (tag_tail isEmpty attributes rest)] at isRead
  obtain ⟨inside, isInside, isRead⟩ := Option.bind_eq_some_iff.mp isRead
  refine attributes_exact isEmpty rest attributes named printable _ inside isInside ?_
  split at isRead
  · obtain rfl := Option.some.inj isRead
    rw [← same]
    cases inside.1.2 <;> rfl
  · cases isRead

theorem tag_unmarked_spells (tag : Tag) (printable : ∀ pair ∈ tag.attributes, Printable pair.2)
    (unmarked : ∀ pair ∈ tag.attributes, Unmarked pair.2) : TagSpells tag tag := by
  have spelled : AttributesSpell tag.attributes tag.attributes := List.forall₂_same.mpr fun pair member =>
    ⟨rfl, unmarked_spells pair.2 (printable pair member) (unmarked pair member)⟩
  cases tag with
  | start name attributes => exact .start name attributes attributes spelled
  | empty name attributes => exact .empty name attributes attributes spelled
  | finish name => exact .finish name

theorem tag_exact (tag : Tag) (sound : tag.sound = true) (printable : ∀ pair ∈ tag.attributes, Printable pair.2)
    (rest behind : List Char) (isText : tag.text ++ rest = '<' :: behind) (read : Tag × List Char)
    (isRead : readTag behind = some read) (same : read.1 = tag) : ∀ pair ∈ tag.attributes, Unmarked pair.2 := by
  obtain ⟨isNamed, named, -⟩ := sound_parts tag sound
  cases tag with
  | start name attributes =>
      obtain ⟨-, rfl⟩ := List.cons.inj ((tag_text false name attributes rest).symm.trans isText)
      exact element_exact false name isNamed attributes named printable rest read isRead (congrArg Tag.attributes same)
  | empty name attributes =>
      obtain ⟨-, rfl⟩ := List.cons.inj ((tag_text true name attributes rest).symm.trans isText)
      exact element_exact true name isNamed attributes named printable rest read isRead (congrArg Tag.attributes same)
  | finish name => exact fun pair member => absurd member List.not_mem_nil

section

variable (tags : List Tag) (sound : ∀ tag ∈ tags, tag.sound = true)
  (printable : ∀ tag ∈ tags, ∀ pair ∈ tag.attributes, Printable pair.2)

include sound printable

theorem lex_exact (fuel : Nat) (pieces : List Char × List (Tag × List Char)) (isLexed : lex fuel (tags.flatMap Tag.text) = some pieces)
    (same : pieces.2.map Prod.fst = tags) : ∀ tag ∈ tags, ∀ pair ∈ tag.attributes, Unmarked pair.2 := by
  induction tags generalizing fuel pieces with
  | nil => exact fun tag member => absurd member List.not_mem_nil
  | cons tag tags ih =>
      cases fuel with
      | zero => cases isLexed
      | succ fuel =>
          have isSound := sound tag List.mem_cons_self
          have isPrintable := printable tag List.mem_cons_self
          obtain ⟨behind, isText⟩ : ∃ behind, tag.text ++ tags.flatMap Tag.text = '<' :: behind := by
            cases tag <;> exact ⟨_, rfl⟩
          rw [List.flatMap_cons, isText, lex_open] at isLexed
          obtain ⟨read, isRead, isLexed⟩ := Option.bind_eq_some_iff.mp isLexed
          obtain ⟨others, isOthers, rfl⟩ := Option.map_eq_some_iff.mp isLexed
          obtain ⟨first, tail⟩ := List.cons.inj same
          have unmarked := tag_exact tag isSound isPrintable _ behind isText read isRead first
          have spells := tag_unmarked_spells tag isPrintable unmarked
          obtain ⟨again, isAgain, readAgain⟩ := read_tag tag tag spells isSound (tags.flatMap Tag.text)
          obtain rfl := (List.cons.inj (isText.symm.trans isAgain)).2
          rw [isRead] at readAgain
          obtain rfl := Option.some.inj readAgain
          have behind := ih (fun other member => sound other (List.mem_cons_of_mem _ member))
            (fun other member => printable other (List.mem_cons_of_mem _ member)) fuel others isOthers tail
          intro other member
          rcases List.mem_cons.mp member with rfl | inside
          · exact unmarked
          · exact behind other inside

theorem read_exact (isBody : withoutDeclaration (tags.flatMap Tag.text) = tags.flatMap Tag.text) (element : isElement tags = true) :
    read (tags.flatMap Tag.text) = some tags ↔ ∀ tag ∈ tags, ∀ pair ∈ tag.attributes, Unmarked pair.2 := by
  constructor
  · intro isRead
    rw [read, isBody] at isRead
    obtain ⟨pieces, isLexed, isRead⟩ := Option.bind_eq_some_iff.mp isRead
    split at isRead
    · exact lex_exact tags sound printable _ pieces isLexed (Option.some.inj isRead)
    · cases isRead
  · intro unmarked
    have reads : Yields (tags.flatMap Tag.text) (tags.flatMap fun tag => [tag]) :=
      yields_flat_map tags Tag.text (fun tag => [tag]) fun tag member =>
        yields_tag tag tag (tag_unmarked_spells tag (printable tag member) (unmarked tag member)) (sound tag member)
    rw [List.flatMap_singleton'] at reads
    exact read_document _ _ tags isBody reads element

end

end RingServer.Library.Xml
