import Mathlib.Data.List.Basic
import Mathlib.Data.List.Monad
import RingServer.Library.Regex

set_option autoImplicit false

namespace RingServer.Library

namespace Regex

-- A point is any character but a line feed; an end is that of the text, or of the
-- text without a last line feed.
def point (c : Char) : Bool := c ≠ '\n'

def begins (before _ : List Char) : Bool := before.isEmpty

def closes (_ behind : List Char) : Bool := behind = [] || behind = ['\n']

-- The alternatives of a group, the last one open: its items with the last first, and
-- whether that takes a quantifier.
structure Branches where
  past : Option (Regex Char)
  items : List (Regex Char)
  ready : Bool

def Branches.new : Branches := ⟨none, [], false⟩

def Branches.whole (branches : Branches) : Regex Char :=
  let last := sequence branches.items.reverse
  branches.past.elim last fun past => .either past last

def Branches.add (branches : Branches) (item : Regex Char) : Branches :=
  { branches with items := item :: branches.items, ready := true }

def Branches.assert (branches : Branches) (item : Regex Char) : Branches :=
  { branches with items := item :: branches.items, ready := false }

def Branches.bar (branches : Branches) : Branches := ⟨some branches.whole, [], false⟩

def Branches.quantify (branches : Branches) (wrap : Regex Char → Regex Char) : Option Branches :=
  match branches.items with
  | item :: items => if branches.ready then some ⟨branches.past, wrap item :: items, false⟩ else none
  | [] => none

inductive Mode where
  | plain
  | opened
  | grouped
  | members (chars : List Char)

structure Reader where
  stack : List Branches
  top : Branches
  mode : Mode

def Reader.new : Reader := ⟨[], .new, .plain⟩

-- Behind a backslash, a plus or a brace the notation has more than is read here.
def Reader.special (c : Char) : Bool := ['\\', '+', '{'].contains c

def Reader.plainStep (reader : Reader) (c : Char) : Option Reader :=
  let withTop (top : Branches) : Reader := { reader with top := top }
  if c = '(' then some { reader with mode := .opened }
  else if c = '[' then some { reader with mode := .members [] }
  else if c = ')' then match reader.stack with
    | below :: stack => some ⟨stack, below.add reader.top.whole, .plain⟩
    | [] => none
  else if c = '|' then some (withTop reader.top.bar)
  else if c = '*' then (reader.top.quantify .star).map withTop
  else if c = '?' then (reader.top.quantify optional).map withTop
  else if c = '.' then some (withTop (reader.top.add (.one point)))
  else if c = '^' then some (withTop (reader.top.assert (.look begins)))
  else if c = '$' then some (withTop (reader.top.assert (.look closes)))
  else if Reader.special c then none
  else some (withTop (reader.top.add (.one (· = c))))

-- Groups are those that capture nothing; a class has neither ranges nor classes in it.
def Reader.step (reader : Reader) (c : Char) : Option Reader :=
  match reader.mode with
  | .plain => reader.plainStep c
  | .opened => if c = '?' then some { reader with mode := .grouped } else none
  | .grouped => if c = ':' then some ⟨reader.top :: reader.stack, .new, .plain⟩ else none
  | .members chars =>
      if c = ']' then
        if chars.isEmpty then none else some ⟨reader.stack, reader.top.add (.one chars.contains), .plain⟩
      else if ['\\', '-', '[', '^'].contains c then none
      else some { reader with mode := .members (c :: chars) }

def Reader.finish (reader : Reader) : Option (Regex Char) :=
  match reader.stack, reader.mode with
  | [], .plain => some reader.top.whole
  | _, _ => none

-- An expression of alternatives, groups, classes, points, ends and the quantifiers * and ?;
-- none is a notation beyond these.
def parse (text : List Char) : Option (Regex Char) := (text.foldlM Reader.step .new).bind Reader.finish

end Regex

end RingServer.Library
