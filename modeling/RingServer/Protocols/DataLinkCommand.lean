import RingServer.Protocols.Text

set_option autoImplicit false

namespace RingServer.DataLink

open Library

def noCommand : List UInt8 := List.replicate 256 0

-- BlockCopy of the header of a frame into DlCommand, and the NUL behind it.
def storeCommand (dlCommand header : List UInt8) : List UInt8 :=
  let copied := header.take (dlCommand.length - 1)
  (copied ++ dlCommand.drop copied.length).set header.length 0

structure Command where
  cmd : Text
  parts : List Text
deriving DecidableEq

-- HandleCommand decodes the whole of DlCommand.
def readCommand (dlCommand : List UInt8) : Command :=
  let cmd := trim (trimEndNul (decodeASCII dlCommand))
  ⟨cmd, splitWords cmd⟩

def dlCommandAfter (history : List (List UInt8)) : List UInt8 := history.foldl storeCommand noCommand

theorem store_command_split (dlCommand header : List UInt8) (size : dlCommand.length = 256) (short : header.length ≤ 255) :
    storeCommand dlCommand header = header ++ 0 :: dlCommand.drop (header.length + 1) := by
  have whole : header.take (dlCommand.length - 1) = header := List.take_of_length_le (by omega)
  have behind : dlCommand.drop header.length = dlCommand[header.length] :: dlCommand.drop (header.length + 1) :=
    List.drop_eq_getElem_cons (by omega)
  simp only [storeCommand, whole, behind]
  rw [List.set_append_right header.length 0 (Nat.le_refl _), Nat.sub_self, List.set_cons_zero]

theorem store_command_length (dlCommand header : List UInt8) (size : dlCommand.length = 256) (short : header.length ≤ 255) :
    (storeCommand dlCommand header).length = 256 := by
  rw [store_command_split dlCommand header size short, List.length_append, List.length_cons, List.length_drop]
  omega

theorem command_after_length (history : List (List UInt8)) (short : ∀ header ∈ history, header.length ≤ 255) :
    (dlCommandAfter history).length = 256 := by
  have step : ∀ dlCommand : List UInt8, dlCommand.length = 256 → (history.foldl storeCommand dlCommand).length = 256 := by
    induction history with
    | nil => exact fun _ size => size
    | cons header rest ih =>
        intro dlCommand size
        exact ih (fun other member => short other (List.mem_cons_of_mem _ member)) _
          (store_command_length dlCommand header size (short header List.mem_cons_self))
  exact step noCommand List.length_replicate

-- How many NULs the words of a command hold; splitting and trimming take none away.
def nuls (text : Text) : Nat := (text.filter fun c => c = nul).length

theorem read_command_nuls (dlCommand : List UInt8) :
    nuls (readCommand dlCommand).parts.flatten = nuls (trimEndNul (decodeASCII dlCommand)) := by
  have words : (splitWords (readCommand dlCommand).cmd).flatten = (readCommand dlCommand).cmd.filter fun c => !decide (c = ' ') :=
    pieces_flatten _ _
  have blank : ∀ c, isWhiteSpace c = true → decide (c = nul) = false := by
    intro c white
    by_contra same
    rw [Bool.not_eq_false, decide_eq_true_iff] at same
    rw [same] at white
    exact absurd white (by decide)
  have kept : (fun c => decide (c = nul) && !decide (c = ' ')) = fun c => decide (c = nul) := by
    funext c
    by_cases isNul : c = nul
    · rw [isNul]
      rfl
    · rw [decide_eq_false isNul, Bool.false_and]
  have parts : (readCommand dlCommand).parts = splitWords (readCommand dlCommand).cmd := rfl
  rw [nuls, parts, words, List.filter_filter, kept]
  exact congrArg List.length (trim_both_filter isWhiteSpace _ blank _)

theorem decode_append (first second : List UInt8) : decodeASCII (first ++ second) = decodeASCII first ++ decodeASCII second :=
  List.map_append

theorem decode_nul (b : UInt8) : decodeASCII [b] = [nul] ↔ b = 0 := by
  rw [decodeASCII, List.map_singleton, List.singleton_inj]
  exact decoded_char b nul (by decide) (by decide)

theorem trim_nul_zeros (text : Text) (zeros : List UInt8) (zero : ∀ b ∈ zeros, b = 0) :
    trimEndNul (text ++ decodeASCII zeros) = trimEndNul text := by
  induction zeros using List.reverseRecOn with
  | nil => rw [decodeASCII, List.map_nil, List.append_nil]
  | append_singleton rest b ih =>
      have last : decodeASCII [b] = [nul] := (decode_nul b).mpr (zero b (by simp))
      rw [decode_append, last, ← List.append_assoc, trimEndNul, List.rdropWhile_concat_pos _ _ _ (by decide)]
      exact ih fun other member => zero other (by simp [member])

theorem trim_nul_keeps (text : Text) (bytes : List UInt8) (some : ∃ b ∈ bytes, b ≠ 0) :
    ∃ kept, trimEndNul (text ++ nul :: decodeASCII bytes) = text ++ nul :: kept := by
  induction bytes using List.reverseRecOn with
  | nil =>
      obtain ⟨b, member, _⟩ := some
      exact absurd member (List.not_mem_nil)
  | append_singleton rest b ih =>
      have split : text ++ nul :: decodeASCII (rest ++ [b]) = (text ++ nul :: decodeASCII rest) ++ decodeASCII [b] := by
        rw [decode_append, List.append_assoc, List.cons_append]
      rw [split]
      by_cases zero : b = 0
      · have last : decodeASCII [b] = [nul] := (decode_nul b).mpr zero
        rw [last, trimEndNul, List.rdropWhile_concat_pos _ _ _ (by decide)]
        refine ih ?_
        obtain ⟨other, member, nonzero⟩ := some
        rw [List.mem_append, List.mem_singleton] at member
        exact ⟨other, member.resolve_right fun same => nonzero (same.trans zero), nonzero⟩
      · have last : ¬ decodeASCII [b] = [nul] := fun same => zero ((decode_nul b).mp same)
        obtain ⟨c, isChar⟩ : ∃ c, decodeASCII [b] = [c] := ⟨_, rfl⟩
        rw [isChar] at last ⊢
        have notNul : ¬ c = nul := fun same => last (by rw [same])
        refine ⟨decodeASCII rest ++ [c], ?_⟩
        rw [trimEndNul, List.rdropWhile_concat_neg _ _ _ (by simpa [nul] using notNul), List.append_assoc, List.cons_append]

theorem nuls_append (first second : Text) : nuls (first ++ second) = nuls first + nuls second := by
  rw [nuls, List.filter_append, List.length_append]
  rfl

theorem nuls_trim_le (text : Text) : nuls (trimEndNul text) ≤ nuls text :=
  (List.Sublist.filter _ (List.rdropWhile_prefix _ text).sublist).length_le

-- What a frame is read as depends on its header alone exactly when no longer header
-- before it left a byte behind.
theorem command_reads_header (history : List (List UInt8)) (header : List UInt8)
    (shorts : ∀ earlier ∈ history, earlier.length ≤ 255) (short : header.length ≤ 255) :
    readCommand (dlCommandAfter (history ++ [header])) = readCommand (dlCommandAfter [header]) ↔
      ∀ b ∈ (dlCommandAfter history).drop (header.length + 1), b = 0 := by
  have size := command_after_length history shorts
  have after : dlCommandAfter (history ++ [header]) = header ++ 0 :: (dlCommandAfter history).drop (header.length + 1) := by
    rw [dlCommandAfter, List.foldl_append, List.foldl_cons, List.foldl_nil]
    exact store_command_split _ header size short
  have alone : dlCommandAfter [header] = header ++ 0 :: noCommand.drop (header.length + 1) := by
    rw [dlCommandAfter, List.foldl_cons, List.foldl_nil]
    exact store_command_split noCommand header List.length_replicate short
  have zeros : ∀ bytes : List UInt8, (∀ b ∈ bytes, b = 0) →
      trimEndNul (decodeASCII (header ++ 0 :: bytes)) = trimEndNul (decodeASCII header) := by
    intro bytes zero
    rw [decode_append]
    exact trim_nul_zeros _ _ (by simpa using zero)
  have fresh := zeros (noCommand.drop (header.length + 1)) fun b member => List.eq_of_mem_replicate (List.mem_of_mem_drop member)
  constructor
  · intro same
    by_contra left
    push Not at left
    obtain ⟨kept, trimmed⟩ := trim_nul_keeps (decodeASCII header) ((dlCommandAfter history).drop (header.length + 1)) left
    have count := congrArg (fun command => nuls command.parts.flatten) same
    simp only [read_command_nuls, after, alone, fresh] at count
    have decoded : decodeASCII (header ++ 0 :: (dlCommandAfter history).drop (header.length + 1)) =
        decodeASCII header ++ nul :: decodeASCII ((dlCommandAfter history).drop (header.length + 1)) := by
      rw [decode_append]
      rfl
    rw [decoded, trimmed, nuls_append] at count
    have one : nuls (nul :: kept) = nuls kept + 1 := by simp [nuls]
    have fewer := nuls_trim_le (decodeASCII header)
    omega
  · intro clean
    simp only [readCommand, after, alone, zeros _ clean, fresh]

theorem command_reads_header_after_status :
    readCommand (dlCommandAfter ([encodeASCII "ID".toList] ++ [encodeASCII "INFO STATUS".toList])) =
        readCommand (dlCommandAfter [encodeASCII "INFO STATUS".toList]) ↔
      ∀ b ∈ (dlCommandAfter [encodeASCII "ID".toList]).drop ((encodeASCII "INFO STATUS".toList).length + 1), b = 0 :=
  command_reads_header [encodeASCII "ID".toList] (encodeASCII "INFO STATUS".toList) (by decide) (by decide)

theorem command_leaks_into_next :
    (readCommand (dlCommandAfter [encodeASCII "ID".toList])).parts = ["ID".toList] ∧
      (readCommand (dlCommandAfter [encodeASCII "INFO STATUS".toList, encodeASCII "ID".toList])).parts =
        [['I', 'D', nul, 'O'], "STATUS".toList] := by
  decide +kernel

end RingServer.DataLink
