import PolicyHost.Text.Unencodable
import PolicyHost.Yaml.Cursor

namespace PolicyHost
namespace Yaml

/-!
# Tokens of YAML texts

Besides the marks that stand in the text there are tokens for what follows
from indentation: the beginnings and ends of block collections, and the keys
of mappings, which are known to be keys only when their colon is met.

This module also reads the tokens that consist of a mark and a name:
directives, anchors, aliases and tags.
-/

inductive Token where
  /-- The version that a document asks for. -/
  | version (major : Nat)
  /-- What a tag handle stands for. -/
  | handle (name meaning : String)
  /-- A directive that means nothing here. -/
  | otherDirective
  | documentStart
  | documentEnd
  | blockSequence
  | blockMapping
  | blockEnd
  | openSequence
  | closeSequence
  | openMapping
  | closeMapping
  /-- The dash before an element of a block sequence. -/
  | dash
  | comma
  | key
  | value
  | alias (name : String)
  | anchor (name : String)
  /-- A tag: a handle, unless the tag is written out, and a suffix. -/
  | tag (handle : Option String) (suffix : String)
  /-- A scalar, and whether it is written without quotes. -/
  | scalar (text : HostText) (plain : Bool)
  /-- The place where a text cannot be read on. -/
  | broken (failure : Failure)
deriving DecidableEq, Repr

namespace Token

def isAddressChar (c : Char) : Bool :=
  c.isAlphanum || "-;/?:@&=+$,_.!~*'()[]%".toList.contains c

/-- The byte after a percent sign. -/
def escapedByte? : List Char → Option UInt8
  | a :: b :: _ =>
    match Characters.digit? a, Characters.digit? b with
    | some high, some low => some (high * 16 + low).toUInt8
    | _, _ => none
  | _ => none

def escapedBytes : Nat → Cursor → Except Failure (Bytes × Cursor)
  | 0, _ => .error .malformed
  | budget + 1, cursor =>
    if cursor.sees (· == '%') then do
      match escapedByte? cursor.next.rest with
      | none => .error .malformed
      | some b =>
        let (rest, cursor) ← escapedBytes budget (cursor.skip 3)
        return (b :: rest, cursor)
    else .ok ([], cursor)

def addressChars : Nat → Cursor → Except Failure (List Char × Cursor)
  | 0, _ => .error .malformed
  | budget + 1, cursor =>
    match cursor.rest with
    | '%' :: _ => do
      let (bytes, cursor) ← escapedBytes (cursor.rest.length + 1) cursor
      match Utf8.decode bytes with
      | none => .error .malformed
      | some chars =>
        let (rest, cursor) ← addressChars budget cursor
        return (chars ++ rest, cursor)
    | c :: _ =>
      if isAddressChar c then do
        let (rest, cursor) ← addressChars budget cursor.next
        return (c :: rest, cursor)
      else .ok ([], cursor)
    | [] => .ok ([], cursor)

/-- An address of at least one character. -/
def address (cursor : Cursor) : Except Failure (String × Cursor) := do
  let (chars, after) ← addressChars (cursor.rest.length + 1) cursor
  if after.index = cursor.index then .error .malformed
  else return (String.ofList chars, after)

/-- A tag handle: an exclamation mark alone, or a name between two of them. -/
def handleName (cursor : Cursor) : Except Failure (String × Cursor) :=
  match cursor.rest with
  | '!' :: ' ' :: _ => .ok ("!", cursor.next)
  | '!' :: rest =>
    let name := rest.takeWhile isNameChar
    match rest.dropWhile isNameChar with
    | '!' :: _ => .ok ("!" ++ String.ofList name ++ "!", cursor.skip (name.length + 2))
    | _ => .error .malformed
  | _ => .error .malformed

/-- A run of digits. -/
def number (cursor : Cursor) : Except Failure (Nat × Cursor) :=
  match cursor.span Char.isDigit with
  | ([], _) => .error .malformed
  | (digits, cursor) => .ok (Characters.ofDigits 10 digits, cursor)

/-- What follows the name of a version directive. -/
def versionBody (cursor : Cursor) : Except Failure (Token × Cursor) := do
  let (major, cursor) ← number cursor.dropSpaces
  if cursor.sees (· == '.') then
    let (_, cursor) ← number cursor.next
    if cursor.endsHeader then return (.version major, cursor) else .error .malformed
  else .error .malformed

/-- What follows the name of a tag directive. -/
def handleBody (cursor : Cursor) : Except Failure (Token × Cursor) := do
  let (name, cursor) ← handleName cursor.dropSpaces
  if cursor.sees (· == ' ') then
    let (meaning, cursor) ← address cursor.dropSpaces
    if cursor.endsHeader then return (.handle name meaning, cursor) else .error .malformed
  else .error .malformed

/-- A directive, from its percent sign to the end of its line. -/
def directive (cursor : Cursor) : Except Failure (Token × Cursor) := do
  let (name, cursor) := cursor.next.span isNameChar
  if name.isEmpty || !cursor.endsHeader then .error .malformed
  else
    let (token, cursor) ← match String.ofList name with
      | "YAML" => versionBody cursor
      | "TAG" => handleBody cursor
      | _ => .ok (.otherDirective, cursor.dropWhile (fun c => !isBreak c))
    return (token, ← cursor.dropLine)

/-- The name after the mark of an anchor or alias. -/
def reference (cursor : Cursor) : Except Failure (String × Cursor) :=
  let (name, cursor) := cursor.next.span isNameChar
  if name.isEmpty then .error .malformed
  else if cursor.endsAt 0 || cursor.sees (fun c => "?:,]\x7d%@\x60".toList.contains c) then
    .ok (String.ofList name, cursor)
  else .error .malformed

/-- Whether a tag names a handle: another exclamation mark comes before white
space. -/
def namesHandle (chars : List Char) : Bool :=
  (chars.takeWhile fun c => c != ' ' && !isBreak c).contains '!'

/-- A tag, from its exclamation mark. -/
def tagOf (cursor : Cursor) : Except Failure (Token × Cursor) := do
  let after := cursor.next
  let (token, cursor) ←
    if after.sees (· == '<') then do
      let (suffix, cursor) ← address after.next
      if cursor.sees (· == '>') then .ok (Token.tag none suffix, cursor.next) else .error .malformed
    else if after.endsAt 0 then .ok (.tag none "!", after)
    else do
      let (name, cursor) ←
        if namesHandle after.rest then handleName cursor else .ok ("!", after)
      let (suffix, cursor) ← address cursor
      .ok (.tag (some name) suffix, cursor)
  if cursor.endsHeader then return (token, cursor) else .error .malformed

end Token
end Yaml
end PolicyHost
