import RingServer.Library.Text

set_option autoImplicit false

namespace RingServer.Library

-- What stands between the slashes of a path that has no relative part.
structure IsName (part : List Char) : Prop where
  some : part ≠ []
  whole : '/' ∉ part
  here : part ≠ ['.']
  up : part ≠ ['.', '.']

structure FullPath where
  names : List (List Char)
  directory : Bool
  plain : ∀ name ∈ names, IsName name

def enter (names : List (List Char)) (part : List Char) : List (List Char) :=
  if part = ['.'] then names else if part = ['.', '.'] then names.dropLast else names ++ [part]

def resolve (start : List (List Char)) (path : List Char) : List (List Char) := (pieces (fun c => c = '/') path).foldl enter start

-- The parts behind the slashes of the text: the last one is empty where it ends in a slash.
def FullPath.parts (path : FullPath) : List (List Char) :=
  if path.names = [] ∨ path.directory = true then path.names ++ [[]] else path.names

def pathText (parts : List (List Char)) : List Char := parts.flatMap ('/' :: ·)

def FullPath.text (path : FullPath) : List Char := pathText path.parts

def isPathRooted (path : List Char) : Bool := path.head? = some '/'

-- Path.Combine and Path.GetFullPath of Unix; none is an exception.
def combine (path1 path2 : List Char) : List Char :=
  if path1 = [] then path2
  else if path2 = [] then path1
  else if isPathRooted path2 then path2
  else if path1.getLast? = some '/' then path1 ++ path2
  else path1 ++ '/' :: path2

theorem enter_plain (names : List (List Char)) (part : List Char) (plain : ∀ name ∈ names, IsName name) (some : part ≠ [])
    (whole : '/' ∉ part) : ∀ name ∈ enter names part, IsName name := by
  intro name member
  rw [enter] at member
  split at member
  · exact plain name member
  · next here =>
    split at member
    · exact plain name (List.dropLast_subset _ member)
    · next up =>
      rcases List.mem_append.mp member with old | new
      · exact plain name old
      · rw [List.mem_singleton.mp new]
        exact ⟨some, whole, here, up⟩

theorem pieces_whole (path : List Char) : ∀ part ∈ pieces (fun c => c = '/') path, part ≠ [] ∧ '/' ∉ part := by
  intro part member
  have filled := (List.mem_filter.mp member).2
  refine ⟨?_, fun slash => ?_⟩
  · rintro rfl
    cases filled
  · have inside : '/' ∈ (pieces (fun c => c = '/') path).flatten := List.mem_flatten.mpr ⟨part, member, slash⟩
    rw [pieces_flatten] at inside
    exact absurd (List.mem_filter.mp inside).2 (by decide)

theorem resolve_plain (start : List (List Char)) (path : List Char) (plain : ∀ name ∈ start, IsName name) :
    ∀ name ∈ resolve start path, IsName name := by
  rw [resolve]
  have whole := pieces_whole path
  generalize pieces (fun c => c = '/') path = parts at whole
  induction parts generalizing start with
  | nil => exact plain
  | cons part rest ih =>
      obtain ⟨some, noSlash⟩ := whole part List.mem_cons_self
      exact ih (enter start part) (enter_plain start part plain some noSlash) fun other member => whole other (List.mem_cons_of_mem _ member)

def getFullPath (currentDirectory path : List Char) : Option FullPath :=
  if path = [] ∨ path.contains (Char.ofNat 0) = true then none
  else
    let path := if isPathRooted path then path else combine currentDirectory path
    some ⟨resolve [] path, path.getLast? = some '/', resolve_plain [] path fun _ none => absurd none List.not_mem_nil⟩

example : (getFullPath "/app".toList "www/./a/../b//c/".toList).map FullPath.text = some "/app/www/b/c/".toList := by decide +kernel

-- The parts of root, and as many of file, agree up to case; the last one only has to begin
-- with that of root.
def Resembles (upper : Char → Char) : List (List Char) → List (List Char) → Prop
  | [], _ => True
  | _ :: _, [] => False
  | [last], part :: _ => last.map upper <+: part.map upper
  | part :: rest, other :: others => part.map upper = other.map upper ∧ Resembles upper rest others

theorem path_text_cons (part : List Char) (rest : List (List Char)) : pathText (part :: rest) = '/' :: (part ++ pathText rest) := rfl

theorem parts_whole (path : FullPath) : ∀ part ∈ path.parts, '/' ∉ part := by
  intro part member
  rw [FullPath.parts] at member
  split at member
  · rcases List.mem_append.mp member with name | empty
    · exact (path.plain part name).whole
    · rw [List.mem_singleton.mp empty]
      exact List.not_mem_nil
  · exact (path.plain part member).whole

theorem part_begins_iff (part other behind : List Char) (whole : '/' ∉ part) (slashed : ∀ c rest, behind = c :: rest → c = '/') :
    part <+: other ++ behind ↔ part <+: other := by
  induction part generalizing other with
  | nil => exact iff_of_true List.nil_prefix List.nil_prefix
  | cons c part ih =>
      rw [List.mem_cons, not_or] at whole
      cases other with
      | nil =>
          refine iff_of_false (fun begins => ?_) (fun begins => absurd (List.prefix_nil.mp begins) (List.cons_ne_nil _ _))
          obtain ⟨rest, same⟩ := begins
          exact whole.1 (slashed c _ same.symm).symm
      | cons d other => rw [List.cons_append, List.cons_prefix_cons, List.cons_prefix_cons, ih other whole.2]

theorem part_goes_on_iff (part other rest behind : List Char) (whole : '/' ∉ part) (whole' : '/' ∉ other)
    (slashed : ∀ c rest, behind = c :: rest → c = '/') :
    part ++ '/' :: rest <+: other ++ behind ↔ part = other ∧ '/' :: rest <+: behind := by
  induction part generalizing other with
  | nil =>
      cases other with
      | nil => exact (and_iff_right rfl).symm
      | cons d other =>
          rw [List.mem_cons, not_or] at whole'
          refine iff_of_false (fun begins => ?_) fun both => absurd both.1 (List.cons_ne_nil _ _).symm
          exact whole'.1 (List.cons_prefix_cons.mp begins).1
  | cons c part ih =>
      rw [List.mem_cons, not_or] at whole
      cases other with
      | nil =>
          refine iff_of_false (fun begins => ?_) fun both => absurd both.1 (List.cons_ne_nil _ _)
          obtain ⟨more, same⟩ := begins
          exact whole.1 (slashed c _ same.symm).symm
      | cons d other =>
          rw [List.mem_cons, not_or] at whole'
          rw [List.cons_append, List.cons_append, List.cons_prefix_cons, ih other whole.2 whole'.2, List.cons.injEq, and_assoc]

section

variable (upper : Char → Char) (slash : ∀ c, upper c = '/' ↔ c = '/')

include slash

theorem upper_whole (part : List Char) (whole : '/' ∉ part) : '/' ∉ part.map upper := by
  intro member
  obtain ⟨c, inside, isSlash⟩ := List.mem_map.mp member
  exact whole ((slash c).mp isSlash ▸ inside)

theorem upper_text (part : List Char) (rest : List (List Char)) :
    (pathText (part :: rest)).map upper = '/' :: (part.map upper ++ (pathText rest).map upper) := by
  rw [path_text_cons, List.map_cons, List.map_append, (slash '/').mpr rfl]

theorem upper_slashed (parts : List (List Char)) (c : Char) (rest : List Char) (same : (pathText parts).map upper = c :: rest) :
    c = '/' := by
  cases parts with
  | nil => cases same
  | cons part others =>
      rw [upper_text upper slash] at same
      exact (List.cons.inj same).1.symm

theorem text_begins_iff (root file : List (List Char)) (plainRoot : ∀ part ∈ root, '/' ∉ part) (plainFile : ∀ part ∈ file, '/' ∉ part) :
    (pathText root).map upper <+: (pathText file).map upper ↔ Resembles upper root file := by
  induction root generalizing file with
  | nil => exact iff_of_true List.nil_prefix trivial
  | cons part rest ih =>
      have whole := upper_whole upper slash part (plainRoot part List.mem_cons_self)
      cases file with
      | nil => exact iff_of_false (fun begins => absurd (List.prefix_nil.mp begins) (by rw [upper_text upper slash]; exact List.cons_ne_nil _ _)) id
      | cons other others =>
          have whole' := upper_whole upper slash other (plainFile other List.mem_cons_self)
          have behind := upper_slashed upper slash others
          rw [upper_text upper slash, upper_text upper slash, List.cons_prefix_cons]
          cases rest with
          | nil =>
              have ends : (pathText []).map upper = [] := rfl
              rw [ends, List.append_nil, part_begins_iff _ _ _ whole behind]
              exact and_iff_right rfl
          | cons second more =>
              have goesOn := ih others (fun name member => plainRoot name (List.mem_cons_of_mem _ member))
                fun name member => plainFile name (List.mem_cons_of_mem _ member)
              rw [upper_text upper slash] at goesOn ⊢
              rw [part_goes_on_iff _ _ _ _ whole whole' behind, goesOn]
              exact and_iff_right rfl

end

end RingServer.Library
